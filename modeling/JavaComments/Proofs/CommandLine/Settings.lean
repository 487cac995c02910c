import JavaComments.Proofs.CommandLine.Line
import Mathlib.Data.List.Nodup

namespace JavaComments.CommandLine

/-- Settings make a rendering: they say nothing twice, the input is among them, and the rendering is
as they say. An indent that is left out is none. -/
structure Make (settings : List Setting) (job : Job) : Prop where
  once : SayOnce settings
  input : .input job.input ∈ settings
  output : ∀ path, .output path ∈ settings ↔ job.output = some path
  indent : ∃ indent : Option Nat, (∀ spaces, .indent spaces ∈ settings ↔ indent = some spaces) ∧
    job.indent = indent.getD 0
  noEscape : .noEscape ∈ settings ↔ job.noEscape = true
  raw : .raw ∈ settings ↔ job.raw = true

section

variable {settings others : List Setting} {job : Job}

/-- Where nothing is said twice, the first setting on a topic is the only one. -/
theorem findSome?_eq_some_iff {α : Type} {said? : Setting → Option α} {say : α → Setting}
    {topic : Topic} (hsaid : ∀ setting x, said? setting = some x ↔ setting = say x)
    (htopic : ∀ x, (say x).topic = topic) (once : SayOnce settings) {x : α} :
    settings.findSome? said? = some x ↔ say x ∈ settings := by
  induction settings with
  | nil => simp
  | cons setting settings ih =>
    obtain ⟨apart, once⟩ := List.nodup_cons.mp once
    rw [List.findSome?_cons, List.mem_cons]
    cases hs : said? setting with
    | none =>
      have other : say x ≠ setting := by
        rintro rfl
        rw [(hsaid _ x).mpr rfl] at hs
        cases hs
      simp only [ih once, other, false_or]
    | some y =>
      obtain rfl := (hsaid setting y).mp hs
      have unsaid : say x ∉ settings := by
        intro hm
        apply apart
        rw [htopic, ← htopic x]
        exact List.mem_map_of_mem hm
      have same : say x = say y ↔ x = y := by
        rw [eq_comm, ← hsaid, hs, Option.some.injEq, eq_comm]
      rw [Option.some.injEq, same, or_iff_left unsaid, eq_comm]

theorem Setting.input?_eq_some_iff (setting : Setting) (path : Text) :
    setting.input? = some path ↔ setting = .input path := by
  cases setting <;> simp [input?]

theorem Setting.output?_eq_some_iff (setting : Setting) (path : Text) :
    setting.output? = some path ↔ setting = .output path := by
  cases setting <;> simp [output?]

theorem Setting.indent?_eq_some_iff (setting : Setting) (spaces : Nat) :
    setting.indent? = some spaces ↔ setting = .indent spaces := by
  cases setting <;> simp [indent?]

theorem job?_eq_some_iff (once : SayOnce settings) :
    job? settings = some job ↔ Make settings job := by
  have input (path : Text) :
      settings.findSome? Setting.input? = some path ↔ .input path ∈ settings :=
    findSome?_eq_some_iff Setting.input?_eq_some_iff (fun _ => rfl) once
  have output (path : Text) :
      settings.findSome? Setting.output? = some path ↔ .output path ∈ settings :=
    findSome?_eq_some_iff Setting.output?_eq_some_iff (fun _ => rfl) once
  have indent (spaces : Nat) :
      settings.findSome? Setting.indent? = some spaces ↔ .indent spaces ∈ settings :=
    findSome?_eq_some_iff Setting.indent?_eq_some_iff (fun _ => rfl) once
  rw [job?, Option.map_eq_some_iff]
  constructor
  · rintro ⟨path, hpath, rfl⟩
    exact ⟨once, (input path).mp hpath, fun path => (output path).symm,
      ⟨_, fun spaces => (indent spaces).symm, rfl⟩, List.contains_iff_mem.symm,
      List.contains_iff_mem.symm⟩
  · intro made
    obtain ⟨spaces, hspaces, hjob⟩ := made.indent
    have hout : settings.findSome? Setting.output? = job.output :=
      Option.ext fun path => (output path).trans (made.output path)
    have hindent : settings.findSome? Setting.indent? = spaces :=
      Option.ext fun n => (indent n).trans (hspaces n)
    have noEscape : settings.contains .noEscape = job.noEscape :=
      Bool.eq_iff_iff.mpr (List.contains_iff_mem.trans made.noEscape)
    have raw : settings.contains .raw = job.raw :=
      Bool.eq_iff_iff.mpr (List.contains_iff_mem.trans made.raw)
    refine ⟨job.input, (input job.input).mpr made.input, ?_⟩
    rw [hout, hindent, noEscape, raw, ← hjob]

theorem not_sayOnce_of_repeated {before after : List Setting} {again : Setting}
    (h : ∃ setting ∈ before ++ after, setting.topic = again.topic) :
    ¬ SayOnce (before ++ again :: after) := by
  intro once
  rw [SayOnce, List.map_append, List.map_cons, List.nodup_middle, ← List.map_append] at once
  exact (List.nodup_cons.mp once).1 (List.mem_map.mpr h)

/-- Settings make the same rendering in any order. -/
theorem Make.perm (made : Make others job) (h : settings.Perm others) : Make settings job where
  once := (h.map Setting.topic).nodup_iff.mpr made.once
  input := h.mem_iff.mpr made.input
  output path := h.mem_iff.trans (made.output path)
  indent := by
    obtain ⟨indent, hindent, hjob⟩ := made.indent
    exact ⟨indent, fun spaces => h.mem_iff.trans (hindent spaces), hjob⟩
  noEscape := h.mem_iff.trans made.noEscape
  raw := h.mem_iff.trans made.raw

theorem Make.indent_pos_iff (made : Make settings job) :
    0 < job.indent ↔ ∃ spaces, 0 < spaces ∧ .indent spaces ∈ settings := by
  obtain ⟨indent, said, hjob⟩ := made.indent
  simp only [said]
  rw [hjob]
  cases indent <;> simp

/-- An indent of no spaces may be left out. -/
theorem Make.filter_indent (made : Make settings job) (h0 : job.indent = 0) :
    Make (settings.filter fun setting => setting.topic ≠ .indent) job where
  once := made.once.sublist (List.filter_sublist.map Setting.topic)
  input := by simpa [Setting.topic] using made.input
  output path := by simpa [Setting.topic] using made.output path
  indent := ⟨none, by simp [Setting.topic], h0⟩
  noEscape := by simpa [Setting.topic] using made.noEscape
  raw := by simpa [Setting.topic] using made.raw

end

/-- The settings that make a rendering, each of them once. -/
def given (input : Text) (output : Option Text) (indent : Option Nat) (noEscape raw : Bool) :
    List Setting :=
  .input input :: output.toList.map .output ++ indent.toList.map .indent ++
    (if noEscape then [.noEscape] else []) ++ if raw then [.raw] else []

theorem sayOnce_given (input : Text) (output : Option Text) (indent : Option Nat)
    (noEscape raw : Bool) : SayOnce (given input output indent noEscape raw) := by
  cases output <;> cases indent <;> cases noEscape <;> cases raw <;>
    simp [SayOnce, given, Setting.topic]

theorem make_given (input : Text) (output : Option Text) (indent : Option Nat)
    (noEscape raw : Bool) : Make (given input output indent noEscape raw)
      { input, output, indent := indent.getD 0, noEscape, raw } where
  once := sayOnce_given input output indent noEscape raw
  input := by simp [given]
  output path := by cases output <;> simp [given, eq_comm]
  indent := ⟨indent, by cases indent <;> simp [given, eq_comm], rfl⟩
  noEscape := by simp [given]
  raw := by simp [given]

end JavaComments.CommandLine
