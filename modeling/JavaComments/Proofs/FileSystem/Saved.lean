import JavaComments.FileSystem.Basic
import JavaComments.Json.Result

namespace JavaComments.FileSystem

open Json (bind_eq_ok_iff)

variable {fs : FileSystem} {location other : Location} {node : Node}

theorem node?_put_self (h : location ≠ []) : (fs.put location node).node? location = some node := by
  simp [node?, put, h]

theorem node?_put_of_ne (h : other ≠ location) :
    (fs.put location node).node? other = fs.node? other := by
  have apart : (other == location) = false := beq_eq_false_iff_ne.mpr h
  simp [node?, put, List.lookup_cons, apart]

/-- A file that is put where no directory was is on no way through directories. -/
theorem walk_put (h : fs.node? location ≠ some .directory) {names : List Text}
    {here there : Location} (hw : fs.walk here names = .ok there) :
    (fs.put location node).walk here names = .ok there := by
  induction names generalizing here with
  | nil => exact hw
  | cons name names ih =>
    rw [walk] at hw ⊢
    split at hw
    next hdot => rw [if_pos hdot]; exact ih hw
    next hdot =>
      rw [if_neg hdot]
      split at hw
      next hup => rw [if_pos hup]; exact ih hw
      next hup =>
        rw [if_neg hup]
        split at hw
        next => simp at hw
        next hlong =>
          rw [if_neg hlong]
          split at hw
          next => simp at hw
          next => simp at hw
          next hdir =>
            have apart : here ++ [name] ≠ location := fun he => h (he ▸ hdir)
            rw [node?_put_of_ne apart, hdir]
            exact ih hw

theorem target?_put (h : fs.node? location ≠ some .directory) {path : Text}
    {target? : Option Target} (ht : fs.target? path = .ok target?) :
    (fs.put location node).target? path = .ok target? := by
  obtain ⟨parsed, hp, ht⟩ := bind_eq_ok_iff.mp ht
  refine bind_eq_ok_iff.mpr ⟨parsed, hp, ?_⟩
  split at ht
  next => exact ht
  next name hname =>
    obtain ⟨parent, hw, ht⟩ := bind_eq_ok_iff.mp ht
    exact bind_eq_ok_iff.mpr ⟨parent, walk_put h hw, ht⟩

theorem write_eq_ok_iff {after : FileSystem} {path content : Text} :
    fs.write path content = .ok after ↔ ∃ target, fs.target? path = .ok (some target) ∧
      target.slashEnd = false ∧ isTooLong target.name = false ∧
      fs.node? target.location ≠ some .directory ∧
      after = fs.put target.location (.file content.utf8) := by
  rw [write, bind_eq_ok_iff]
  constructor
  · intro hx
    obtain ⟨target?, ht, h⟩ := hx
    split at h
    next => simp at h
    next target =>
      split at h
      next => simp at h
      next hslash =>
        split at h
        next => simp at h
        next hlong =>
          split at h
          next => simp at h
          next hdir =>
            exact ⟨target, ht, by simpa using hslash, by simpa using hlong, hdir,
              (Except.ok.inj h).symm⟩
  · intro hx
    obtain ⟨target, ht, hslash, hlong, hdir, rfl⟩ := hx
    exact ⟨some target, ht, by simp [hslash, hlong, hdir]⟩

theorem readBytes_eq_ok {path : Text} {target : Target} {bytes : List UInt8}
    (ht : fs.target? path = .ok (some target)) (hslash : target.slashEnd = false)
    (hlong : isTooLong target.name = false)
    (hn : fs.node? target.location = some (.file bytes)) : fs.readBytes path = .ok bytes := by
  rw [readBytes, ht]
  simp [bind, Except.bind, hlong, hn, hslash]

/-- A text is saved at a path: it is what the file there holds, and nothing else has changed. -/
structure Saved (before after : FileSystem) (path content : Text) : Prop where
  holds : after.readBytes path = .ok content.utf8
  unchanged : ∃ target, before.target? path = .ok (some target) ∧
    after.node? target.location = some (.file content.utf8) ∧
    ∀ location ≠ target.location, after.node? location = before.node? location
  workingDirectory : after.workingDirectory = before.workingDirectory

theorem saved_of_write {after : FileSystem} {path content : Text}
    (h : fs.write path content = .ok after) : Saved fs after path content := by
  obtain ⟨target, ht, hslash, hlong, hdir, rfl⟩ := write_eq_ok_iff.mp h
  have held : (fs.put target.location (.file content.utf8)).node? target.location =
      some (.file content.utf8) := node?_put_self (by simp [Target.location])
  exact ⟨readBytes_eq_ok (target?_put hdir ht) hslash hlong held,
    ⟨target, ht, held, fun _ hne => node?_put_of_ne hne⟩, rfl⟩

end JavaComments.FileSystem
