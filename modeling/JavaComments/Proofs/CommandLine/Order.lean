import JavaComments.Proofs.Program.Run

namespace JavaComments.CommandLine

/-- Whatever a group says of something that other groups already say, it is one too many. -/
theorem command?_of_repeated {before after : List Setting} {front back group : List Text}
    {topic : Topic} {value : Text} (hfront : Groups before front) (hback : Line after back)
    (hgroup : Group topic value group) (hplain : topic = .input → IsPlain value)
    (hsaid : ∃ setting ∈ before ++ after, setting.topic = topic) :
    command? ("render".toList :: (front ++ (group ++ back))) = none := by
  rw [command?_render]
  by_cases hv : value ∈ group → IsPlain value
  · cases hread : topic.read value with
    | none =>
      rw [rendering?, reading?_groups hfront, reading?_group hgroup hv, hread]
      rfl
    | some again =>
      obtain ⟨rfl, _⟩ := read_eq_some_iff.mp hread
      have read : reading? (front ++ (group ++ back)) =
          some ⟨before ++ again :: after, false⟩ := by
        rw [reading?_groups hfront, reading?_group hgroup hv, hread, reading?_of_line hback]
        rfl
      rw [rendering?_of_reading? read, if_pos (not_sayOnce_of_repeated hsaid)]
  · obtain ⟨hm, hv⟩ := Classical.not_imp.mp hv
    have ht : topic ≠ .input := fun ht => hv (hplain ht)
    rw [rendering?, reading?_groups hfront, reading?_of_not_plain hgroup ht hm hv]
    rfl

/-- Neither the order of the groups nor the spelling of each matters for what is understood. One
group more, that says something again in whatever spelling and with whatever value, and nothing is
understood at all. -/
theorem command?_of_spelt_settings (input : Text) (output : Option Text) (indent : Option Nat)
    (noEscape raw : Bool) :
    (∀ (settings : List Setting) (args : List Text),
      settings.Perm (given input output indent noEscape raw) → Line settings args →
      command? ("render".toList :: args) =
        some (.render { input, output, indent := indent.getD 0, noEscape, raw })) ∧
    ∀ (before after : List Setting) (front back group : List Text) (topic : Topic) (value : Text),
      Groups before front → Line after back → Group topic value group →
      (topic = .input → IsPlain value) →
      (∃ setting ∈ before ++ after, setting.topic = topic) →
      ∀ files, Program.run ("render".toList :: (front ++ (group ++ back))) files =
        ⟨2, [], files⟩ := by
  constructor
  · intro settings args hperm hline
    have made := (make_given input output indent noEscape raw).perm hperm
    exact command?_eq_some_iff.mpr (.render hline made)
  · intro before after front back group topic value hfront hback hgroup hplain hsaid files
    exact Program.run_of_refused (command?_of_repeated hfront hback hgroup hplain hsaid)

def speltLine : List Text :=
  ["-o=a=b".toList, "--indent=+007".toList, "--no-escape".toList, "--raw".toList, "--".toList,
    "--raw".toList]

theorem command?_of_spelt_settings_mixed :
    Line [.output "a=b".toList, .indent 7, .noEscape, .raw, .input "--raw".toList] speltLine ∧
    command? ("render".toList :: speltLine) =
      some (.render ⟨"--raw".toList, some "a=b".toList, 7, true, true⟩) ∧
    ∀ files, Program.run
      ["render".toList, "-".toList, "--output=".toList, "-orender".toList, "--raw".toList] files =
        ⟨2, [], files⟩ := by
  have line : Line [.output "a=b".toList, .indent 7, .noEscape, .raw, .input "--raw".toList]
      speltLine := line_iff_reading?.mpr rfl
  have dash : Spells ["-".toList] (.input "-".toList) :=
    ⟨_, .bare _, ⟨rfl, by decide⟩, fun _ => .inl rfl⟩
  have back : Line [.output "render".toList, .raw] ["-orender".toList, "--raw".toList] :=
    line_iff_reading?.mpr rfl
  refine ⟨line, ?_, ?_⟩
  · exact (command?_of_spelt_settings _ (some "a=b".toList) (some 7) true true).1 _ _
      (by decide) line
  · exact (command?_of_spelt_settings [] none none false false).2 _ _ _ _ _ _ _
      (.cons dash .nil) back (.outputEquals []) nofun ⟨.output "render".toList, by decide, rfl⟩

end JavaComments.CommandLine
