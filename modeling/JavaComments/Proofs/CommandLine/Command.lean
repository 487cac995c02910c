import JavaComments.Proofs.CommandLine.Settings

namespace JavaComments.CommandLine

/-- What arguments ask for. A question for help ends a rendering where it stands, if the groups in
front of it say nothing twice. -/
inductive Asks : List Text → Command → Prop
  | version {first : Text} {args : List Text} : AsksVersion first → Asks (first :: args) .version
  | help {first : Text} {args : List Text} :
      AsksHelp first → Asks (first :: args) (.help .program)
  | helpCommand : Asks ["help".toList] (.help .program)
  | helpOnRender : Asks ["help".toList, "render".toList] (.help .render)
  | helpOnHelp : Asks ["help".toList, "help".toList] (.help .help)
  | renderHelp {settings : List Setting} {front back : List Text} {flag : Text} :
      Groups settings front → SayOnce settings → AsksHelp flag →
      Asks ("render".toList :: (front ++ flag :: back)) (.help .render)
  | render {settings : List Setting} {args : List Text} {job : Job} :
      Line settings args → Make settings job → Asks ("render".toList :: args) (.render job)

variable {args : List Text} {command : Command}

theorem rendering?_of_reading? {reading : Reading} (h : reading? args = some reading) :
    rendering? args =
      if ¬ SayOnce reading.settings then none
      else if reading.asksHelp then some (.help .render)
      else (job? reading.settings).map .render := by
  rw [rendering?, h]
  rfl

theorem asks_of_rendering? (h : rendering? args = some command) :
    Asks ("render".toList :: args) command := by
  cases hr : reading? args with
  | none => simp [rendering?, hr] at h
  | some reading =>
    rw [rendering?_of_reading? hr] at h
    split at h
    next => cases h
    next once =>
      rw [not_not] at once
      cases reading?_eq_some_iff.mp hr with
      | line hline =>
        obtain ⟨job, hjob, rfl⟩ := Option.map_eq_some_iff.mp h
        exact .render hline ((job?_eq_some_iff once).mp hjob)
      | help hgroups hflag =>
        cases Option.some.inj h
        exact .renderHelp hgroups once hflag

theorem command?_render (args : List Text) :
    command? ("render".toList :: args) = rendering? args := by
  rw [command?, if_neg (by decide), if_neg (by decide), if_neg (by decide), if_pos rfl]

theorem asks_of_page? {page : Page} (h : page? args = some page) :
    Asks ("help".toList :: args) (.help page) := by
  unfold page? at h
  split at h
  next =>
    cases Option.some.inj h
    exact .helpCommand
  next name =>
    split at h
    next hname =>
      cases Option.some.inj h
      exact hname ▸ .helpOnRender
    next =>
      split at h
      next hname =>
        cases Option.some.inj h
        exact hname ▸ .helpOnHelp
      next => cases h
  next => cases h

theorem asks_of_command? (h : command? args = some command) : Asks args command := by
  cases args with
  | nil => cases h
  | cons first args =>
    rw [command?] at h
    split at h
    next hversion =>
      cases Option.some.inj h
      exact .version hversion
    next =>
      split at h
      next hhelp =>
        cases Option.some.inj h
        exact .help hhelp
      next =>
        split at h
        next hfirst =>
          obtain ⟨page, hpage, rfl⟩ := Option.map_eq_some_iff.mp h
          exact hfirst ▸ asks_of_page? hpage
        next =>
          split at h
          next hfirst => exact hfirst ▸ asks_of_rendering? h
          next => cases h

theorem command?_of_asks (h : Asks args command) : command? args = some command := by
  cases h with
  | version hversion => exact if_pos hversion
  | @help first args hhelp =>
    have unlike : ¬ AsksVersion first := by
      rcases hhelp with rfl | ⟨value, rfl⟩
      · decide
      · simp [IsFlag]
    exact (if_neg unlike).trans (if_pos hhelp)
  | helpCommand | helpOnRender | helpOnHelp => rfl
  | @renderHelp settings front back flag hgroups once hflag =>
    have read : reading? (front ++ flag :: back) = some ⟨settings, true⟩ :=
      reading?_eq_some_iff.mpr (.help hgroups hflag)
    rw [command?_render, rendering?_of_reading? read, if_neg (not_not.mpr once)]
    rfl
  | render hline made =>
    rw [command?_render, rendering?_of_reading? (reading?_of_line hline),
      if_neg (not_not.mpr made.once), (job?_eq_some_iff made.once).mpr made]
    rfl

/-- A command is understood exactly where the arguments ask for it. -/
theorem command?_eq_some_iff : command? args = some command ↔ Asks args command :=
  ⟨asks_of_command?, command?_of_asks⟩

/-- Help is given before the flag is said twice, and refused behind that. -/
example : command? ["render".toList, "--raw".toList, "-h".toList, "--raw".toList] =
      some (.help .render) ∧
    command? ["render".toList, "--raw".toList, "--raw".toList, "-h".toList] = none := by decide

theorem command?_eq_none_iff : command? args = none ↔ ∀ command, ¬ Asks args command := by
  simp only [Option.eq_none_iff_forall_ne_some, ne_eq, command?_eq_some_iff]

/-- What a line says makes the rendering that is understood. -/
theorem make_of_line {settings : List Setting} {job : Job} (hline : Line settings args)
    (h : command? ("render".toList :: args) = some (.render job)) : Make settings job := by
  rw [command?_render, rendering?_of_reading? (reading?_of_line hline)] at h
  split at h
  next => cases h
  next once =>
    obtain ⟨made, hjob, hsame⟩ := Option.map_eq_some_iff.mp h
    cases hsame
    exact (job?_eq_some_iff (not_not.mp once)).mp hjob

end JavaComments.CommandLine
