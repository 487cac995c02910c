import JavaComments.Proofs.CommandLine.Numeral

namespace JavaComments.CommandLine

/-- The ways to give something: what it is about, its value, and the group of arguments. -/
inductive Group : Topic → Text → List Text → Prop
  | bare (path : Text) : Group .input path [path]
  | output (path : Text) : Group .output path ["--output".toList, path]
  | outputEquals (path : Text) : Group .output path ["--output=".toList ++ path]
  | short (path : Text) : Group .output path ["-o".toList, path]
  | shortEquals (path : Text) : Group .output path ["-o=".toList ++ path]
  | attached {path : Text} : path ≠ [] → path.head? ≠ some '=' →
      Group .output path ["-o".toList ++ path]
  | indent (number : Text) : Group .indent number ["--indent".toList, number]
  | indentEquals (number : Text) : Group .indent number ["--indent=".toList ++ number]
  | noEscape : Group .noEscape [] ["--no-escape".toList]
  | raw : Group .raw [] ["--raw".toList]

/-- What a value has to be for the setting that it gives; a flag has none. -/
def Setting.IsGivenBy (value : Text) : Setting → Prop
  | input path => path = value ∧ value ≠ []
  | output path => path = value ∧ value ≠ []
  | indent spaces => spaces < UInt64.size ∧ Numeral spaces value
  | noEscape => True
  | raw => True

/-- An argument does not look like an option; a lone dash does not either. -/
def IsPlain (arg : Text) : Prop := arg = ['-'] ∨ arg.head? ≠ some '-'

/-- A group spells a setting. A value in an argument of its own is plain. -/
def Spells (group : List Text) (setting : Setting) : Prop :=
  ∃ value, Group setting.topic value group ∧ setting.IsGivenBy value ∧
    (value ∈ group → IsPlain value)

/-- Groups one after the other. -/
inductive Groups : List Setting → List Text → Prop
  | nil : Groups [] []
  | cons {setting : Setting} {settings : List Setting} {group args : List Text} :
      Spells group setting → Groups settings args → Groups (setting :: settings) (group ++ args)

/-- Groups, and perhaps two dashes with nothing but paths behind them. -/
inductive Line : List Setting → List Text → Prop
  | groups {settings : List Setting} {args : List Text} :
      Groups settings args → Line settings args
  | ended {settings : List Setting} {args paths : List Text} :
      Groups settings args → (∀ path ∈ paths, path ≠ []) →
      Line (settings ++ paths.map .input) (args ++ "--".toList :: paths)

/-- The arguments of a rendering that are understood, and what is read of them: a line, or groups in
front of a question for help and whatever stands behind it. -/
inductive Reads : List Text → Reading → Prop
  | line {settings : List Setting} {args : List Text} :
      Line settings args → Reads args ⟨settings, false⟩
  | help {settings : List Setting} {front back : List Text} {flag : Text} :
      Groups settings front → AsksHelp flag → Reads (front ++ flag :: back) ⟨settings, true⟩

/-- How the value of a group is taken. -/
def Topic.read : Topic → Text → Option Setting
  | input, value => path? .input value
  | output, value => path? .output value
  | indent, value => indent? value
  | noEscape, _ => some .noEscape
  | raw, _ => some .raw

theorem path?_eq_some_iff {make : Text → Setting} {value : Text} {setting : Setting} :
    path? make value = some setting ↔ value ≠ [] ∧ make value = setting := by
  cases value <;> simp [path?]

theorem isWord_iff {arg : Text} : isWord arg = true ↔ IsPlain arg := by
  simp [isWord, IsPlain, or_comm]

theorem read_eq_some_iff {topic : Topic} {value : Text} {setting : Setting} :
    topic.read value = some setting ↔ setting.topic = topic ∧ setting.IsGivenBy value := by
  cases topic with
  | input | output =>
    rw [Topic.read, path?_eq_some_iff]
    cases setting <;> simp [Setting.topic, Setting.IsGivenBy, eq_comm, and_comm]
  | indent =>
    rw [Topic.read, indent?_eq_some_iff]
    cases setting <;> simp [Setting.topic, Setting.IsGivenBy]
  | noEscape | raw =>
    rw [Topic.read, Option.some.injEq]
    cases setting <;> simp [Setting.topic, Setting.IsGivenBy]

theorem not_asksHelp_of_isPlain {arg : Text} (h : IsPlain arg) : ¬ AsksHelp arg := by
  rintro (rfl | ⟨value, rfl⟩)
  · simp [IsPlain] at h
  · simp [IsPlain] at h

theorem reading?_complete {arg : Text} {args : List Text} {setting? : Option Setting}
    (hd : arg ≠ ['-', '-']) (hh : ¬ AsksHelp arg) (h : argument? arg = setting?.map .complete) :
    reading? (arg :: args) =
      setting?.bind fun setting => (reading? args).map (.after [setting]) := by
  rw [reading?.eq_def]
  dsimp only
  rw [if_neg hd, if_neg hh, h]
  cases setting? <;> rfl

theorem reading?_awaiting {arg value : Text} {args : List Text}
    {setting? : Text → Option Setting} (hd : arg ≠ ['-', '-']) (hh : ¬ AsksHelp arg)
    (h : argument? arg = some (.awaiting setting?)) :
    reading? (arg :: value :: args) =
      if isWord value then
        (setting? value).bind fun setting => (reading? args).map (.after [setting])
      else none := by
  rw [reading?.eq_def]
  dsimp only
  rw [if_neg hd, if_neg hh, h]
  dsimp only
  simp only [Option.map_eq_bind]
  rfl

theorem argument?_plain {arg : Text} (h : IsPlain arg) :
    argument? arg = (path? .input arg).map .complete := by
  unfold argument?
  split
  next => simp [IsPlain] at h
  next => simp [IsPlain] at h
  next => simp [IsPlain] at h
  next => rfl

theorem argument?_attached {path : Text} (hne : path ≠ []) (he : path.head? ≠ some '=') :
    argument? ("-o".toList ++ path) = (path? .output path).map .complete := by
  have attached : attached? path = some path := by
    unfold attached?
    split
    next => exact absurd rfl hne
    next => exact absurd rfl he
    next => rfl
  exact congrArg (valued (path? .output)) attached

theorem reading?_group {topic : Topic} {value : Text} {group : List Text}
    (h : Group topic value group) (hv : value ∈ group → IsPlain value) (args : List Text) :
    reading? (group ++ args) =
      (topic.read value).bind fun setting => (reading? args).map (.after [setting]) := by
  cases h with
  | bare path =>
    have plain := hv (by simp)
    refine reading?_complete ?_ (not_asksHelp_of_isPlain plain) (argument?_plain plain)
    rintro rfl
    simp [IsPlain] at plain
  | output | short | indent =>
    have hw : isWord value = true := isWord_iff.mpr (hv (by simp))
    exact (reading?_awaiting (by decide) (by decide) rfl).trans (if_pos hw)
  | attached hne he =>
    refine reading?_complete ?_ ?_ (argument?_attached hne he)
    · simp
    · simp [IsFlag]
  | outputEquals | shortEquals | indentEquals | noEscape | raw =>
    exact reading?_complete (by simp) (by simp [IsFlag]) (by rfl)

/-- An option is not understood whose value, in an argument of its own, looks like an option. -/
theorem reading?_of_not_plain {topic : Topic} {value : Text} {group : List Text}
    (h : Group topic value group) (ht : topic ≠ .input) (hm : value ∈ group)
    (hv : ¬ IsPlain value) (args : List Text) : reading? (group ++ args) = none := by
  have hw : ¬ isWord value = true := mt isWord_iff.mp hv
  cases h with
  | bare => exact absurd rfl ht
  | output | short | indent =>
    exact (reading?_awaiting (by decide) (by decide) rfl).trans (if_neg hw)
  | outputEquals | shortEquals | attached | indentEquals =>
    have same := congrArg List.length (List.mem_singleton.mp hm)
    simp at same
    omega
  | noEscape | raw => simp at hm

theorem reading?_spelt {group : List Text} {setting : Setting} (h : Spells group setting)
    (args : List Text) : reading? (group ++ args) = (reading? args).map (.after [setting]) := by
  obtain ⟨value, hgroup, hvalue, hplain⟩ := h
  rw [reading?_group hgroup hplain, read_eq_some_iff.mpr ⟨rfl, hvalue⟩, Option.bind_some]

/-- What groups say is said before whatever comes behind them. -/
theorem reading?_groups {settings : List Setting} {front : List Text} (h : Groups settings front)
    (back : List Text) : reading? (front ++ back) = (reading? back).map (.after settings) := by
  induction h with
  | nil => exact Option.map_id'.symm
  | cons hgroup _ ih =>
    rw [List.append_assoc, reading?_spelt hgroup, ih, Option.map_map]
    rfl

theorem mapM_path?_eq_some_iff {paths : List Text} {settings : List Setting} :
    paths.mapM (path? .input) = some settings ↔
      (∀ path ∈ paths, path ≠ []) ∧ settings = paths.map .input := by
  induction paths generalizing settings with
  | nil => simp [eq_comm]
  | cons path paths ih =>
    simp only [List.mapM_cons, Option.bind_eq_bind, Option.bind_eq_some_iff, path?_eq_some_iff, ih,
      Option.pure_def, Option.some.injEq, List.forall_mem_cons, List.map_cons]
    constructor
    · rintro ⟨_, ⟨hp, rfl⟩, _, ⟨hps, rfl⟩, rfl⟩
      exact ⟨⟨hp, hps⟩, rfl⟩
    · rintro ⟨⟨hp, hps⟩, rfl⟩
      exact ⟨_, ⟨hp, rfl⟩, _, ⟨hps, rfl⟩, rfl⟩

theorem reading?_ended (paths : List Text) :
    reading? ("--".toList :: paths) = (paths.mapM (path? .input)).map (⟨·, false⟩) := by
  rw [reading?.eq_def]
  exact if_pos rfl

theorem reading?_help {flag : Text} (h : AsksHelp flag) (args : List Text) :
    reading? (flag :: args) = some ⟨[], true⟩ := by
  have hd : flag ≠ ['-', '-'] := by
    rintro rfl
    exact absurd h (by decide)
  rw [reading?.eq_def]
  dsimp only
  rw [if_neg hd, if_pos h]

theorem reading?_of_line {settings : List Setting} {args : List Text} (h : Line settings args) :
    reading? args = some ⟨settings, false⟩ := by
  cases h with
  | groups h =>
    have read := reading?_groups h []
    rw [List.append_nil] at read
    rw [read]
    simp [reading?, Reading.after]
  | ended h hp =>
    rw [reading?_groups h, reading?_ended, mapM_path?_eq_some_iff.mpr ⟨hp, rfl⟩]
    rfl

theorem reading?_of_reads {args : List Text} {reading : Reading} (h : Reads args reading) :
    reading? args = some reading := by
  cases h with
  | line h => exact reading?_of_line h
  | help hgroups hflag =>
    rw [reading?_groups hgroups, reading?_help hflag]
    simp [Reading.after]

theorem Line.cons {setting : Setting} {settings : List Setting} {group args : List Text}
    (hg : Spells group setting) (h : Line settings args) :
    Line (setting :: settings) (group ++ args) := by
  cases h with
  | groups h => exact .groups (.cons hg h)
  | ended h hp =>
    have longer := Line.ended (.cons hg h) hp
    rwa [List.append_assoc] at longer

theorem Reads.cons {setting : Setting} {reading : Reading} {group args : List Text}
    (hg : Spells group setting) (h : Reads args reading) :
    Reads (group ++ args) (reading.after [setting]) := by
  cases h with
  | line h => exact .line (h.cons hg)
  | help hgroups hflag =>
    rw [← List.append_assoc]
    exact .help (.cons hg hgroups) hflag

theorem length_lt_of_behind (front : Text) (h : front ≠ []) (value : Text) :
    value.length < (front ++ value).length := by
  have some_front : 0 < front.length := List.length_pos_iff.mpr h
  rw [List.length_append]
  omega

/-- What an argument comes to is spelt by it, alone or with any value behind it. -/
def Argument.IsSpelt (arg : Text) : Argument → Prop
  | complete setting => Spells [arg] setting
  | awaiting setting? =>
    ∃ topic : Topic, setting? = topic.read ∧ ∀ value, Group topic value [arg, value]

theorem valued_isSpelt (topic : Topic) {arg : Text} {value? : Option Text} {argument : Argument}
    (hnext : value? = none → ∀ value, Group topic value [arg, value])
    (hself : ∀ value, value? = some value → Group topic value [arg] ∧ value.length < arg.length)
    (h : valued topic.read value? = some argument) : argument.IsSpelt arg := by
  cases value? with
  | none =>
    cases Option.some.inj h
    exact ⟨topic, rfl, hnext rfl⟩
  | some value =>
    obtain ⟨setting, hread, rfl⟩ := Option.map_eq_some_iff.mp h
    obtain ⟨rfl, hvalue⟩ := read_eq_some_iff.mp hread
    obtain ⟨hgroup, hlength⟩ := hself value rfl
    refine ⟨value, hgroup, hvalue, ?_⟩
    intro hm
    rw [List.mem_singleton.mp hm] at hlength
    omega

theorem longOption_isSpelt {name : Text} {value? : Option Text} {argument : Argument}
    (h : longOption name value? = some argument) :
    argument.IsSpelt ("--".toList ++ name ++ value?.elim [] ('=' :: ·)) := by
  unfold longOption at h
  split at h
  next hname =>
    subst hname
    refine valued_isSpelt .output ?_ ?_ h
    · rintro rfl value
      exact .output value
    · rintro value rfl
      exact ⟨.outputEquals value, length_lt_of_behind "--output=".toList (by decide) value⟩
  next =>
    split at h
    next hname =>
      subst hname
      refine valued_isSpelt .indent ?_ ?_ h
      · rintro rfl value
        exact .indent value
      · rintro value rfl
        exact ⟨.indentEquals value, length_lt_of_behind "--indent=".toList (by decide) value⟩
    next =>
      split at h
      next hname =>
        obtain ⟨rfl, rfl⟩ := hname
        cases Option.some.inj h
        exact ⟨[], .noEscape, trivial, by simp⟩
      next =>
        split at h
        next hname =>
          obtain ⟨rfl, rfl⟩ := hname
          cases Option.some.inj h
          exact ⟨[], .raw, trivial, by simp⟩
        next => cases h

theorem dropWhile_equals (option : Text) :
    option.dropWhile (· != '=') = [] ∨ ∃ value, option.dropWhile (· != '=') = '=' :: value := by
  have head := List.head?_dropWhile_not (· != '=') option
  cases h : option.dropWhile (· != '=') with
  | nil => exact .inl rfl
  | cons c value =>
    rw [h] at head
    obtain rfl : c = '=' := by simpa using head
    exact .inr ⟨value, rfl⟩

theorem attached?_isSpelt {value : Text} {argument : Argument}
    (h : valued (path? .output) (attached? value) = some argument) :
    argument.IsSpelt ("-o".toList ++ value) := by
  refine valued_isSpelt .output ?_ ?_ h
  · intro hnone path
    cases value with
    | nil => exact .short path
    | cons c value =>
      unfold attached? at hnone
      split at hnone <;> simp_all
  · intro path hsome
    unfold attached? at hsome
    split at hsome
    next => cases hsome
    next =>
      cases Option.some.inj hsome
      exact ⟨.shortEquals path, length_lt_of_behind "-o=".toList (by decide) path⟩
    next hne he =>
      cases Option.some.inj hsome
      have head : value.head? ≠ some '=' := by
        intro hv
        obtain ⟨tail, rfl⟩ := List.head?_eq_some_iff.mp hv
        exact he tail rfl
      exact ⟨.attached hne head, length_lt_of_behind _ (by decide) value⟩

theorem argument?_isSpelt {arg : Text} {argument : Argument} (h : argument? arg = some argument) :
    argument.IsSpelt arg := by
  unfold argument? at h
  split at h
  next option =>
    have spelt := longOption_isSpelt h
    have rest : (if (option.dropWhile (· != '=')).isEmpty then none
        else some (option.dropWhile (· != '=')).tail).elim [] ('=' :: ·) =
        option.dropWhile (· != '=') := by
      rcases dropWhile_equals option with hd | ⟨value, hd⟩ <;> rw [hd] <;> rfl
    rw [rest, List.append_assoc, List.takeWhile_append_dropWhile] at spelt
    exact spelt
  next => exact attached?_isSpelt h
  next => cases h
  next _ _ hdash =>
    obtain ⟨setting, hread, rfl⟩ := Option.map_eq_some_iff.mp h
    have hread : Topic.input.read arg = some setting := hread
    obtain ⟨htopic, hvalue⟩ := read_eq_some_iff.mp hread
    have plain : IsPlain arg := by
      cases arg with
      | nil => exact .inr (by simp)
      | cons c arg =>
        by_cases hc : c = '-'
        · subst hc
          cases arg with
          | nil => exact .inl rfl
          | cons d arg => exact absurd rfl (hdash d arg)
        · exact .inr (by simpa using hc)
    exact ⟨arg, htopic ▸ .bare arg, hvalue, fun _ => plain⟩

theorem reads_of_reading? {args : List Text} {reading : Reading}
    (h : reading? args = some reading) : Reads args reading := by
  fun_induction reading? args generalizing reading with
  | case1 =>
    cases Option.some.inj h
    exact .line (.groups .nil)
  | case2 paths =>
    obtain ⟨settings, hpaths, rfl⟩ := Option.map_eq_some_iff.mp h
    obtain ⟨hp, rfl⟩ := mapM_path?_eq_some_iff.mp hpaths
    exact .line (.ended .nil hp)
  | case3 flag args _ hflag =>
    cases Option.some.inj h
    exact .help .nil hflag
  | case4 => cases h
  | case5 arg _ _ setting args ha ih =>
    obtain ⟨behind, hbehind, rfl⟩ := Option.map_eq_some_iff.mp h
    exact .cons (argument?_isSpelt ha) (ih hbehind)
  | case6 => cases h
  | case7 arg _ _ setting? value args ha hw ih =>
    obtain ⟨setting, hread, h⟩ := Option.bind_eq_some_iff.mp h
    obtain ⟨behind, hbehind, h⟩ := Option.bind_eq_some_iff.mp h
    cases Option.some.inj h
    obtain ⟨topic, rfl, hgroup⟩ := argument?_isSpelt ha
    obtain ⟨rfl, hvalue⟩ := read_eq_some_iff.mp hread
    have spelt : Spells [arg, value] setting :=
      ⟨value, hgroup value, hvalue, fun _ => isWord_iff.mp hw⟩
    exact .cons spelt (ih hbehind)
  | case8 => cases h

/-- The arguments that are understood are exactly those described, and nothing else is read. -/
theorem reading?_eq_some_iff {args : List Text} {reading : Reading} :
    reading? args = some reading ↔ Reads args reading :=
  ⟨reads_of_reading?, reading?_of_reads⟩

theorem line_iff_reading? {settings : List Setting} {args : List Text} :
    Line settings args ↔ reading? args = some ⟨settings, false⟩ := by
  constructor
  · exact reading?_of_line
  · intro h
    cases reads_of_reading? h with
    | line h => exact h

end JavaComments.CommandLine
