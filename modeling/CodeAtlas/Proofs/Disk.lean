import CodeAtlas.Disk

namespace CodeAtlas.Disk

variable {d after : Disk} {place other : List String} {content : List UInt8}

theorem lookup_filter_ne (h : other ≠ place) (files : List (List String × List UInt8)) :
    (files.filter fun f => f.1 ≠ place).lookup other = files.lookup other := by
  induction files with
  | nil => rfl
  | cons f rest ih =>
      by_cases hf : f.1 = place
      · have hne : (other == f.1) = false := by simpa [hf] using h
        rw [List.filter_cons_of_neg (by simpa using hf), ih, List.lookup_cons, hne]
      · rw [List.filter_cons_of_pos (by simpa using hf), List.lookup_cons, List.lookup_cons, ih]

theorem file?_setFile : (d.setFile place content).file? place = some content := by
  simp [file?, setFile]

theorem file?_setFile_of_ne (h : other ≠ place) :
    (d.setFile place content).file? other = d.file? other := by
  have hne : (other == place) = false := by simpa using h
  rw [file?, setFile, List.lookup_cons, hne, file?]
  exact lookup_filter_ne h d.files

/-- One file holds the content, and nothing else on the disk is different. -/
structure Wrote (d : Disk) (place : List String) (content : List UInt8) (after : Disk) : Prop where
  held : after.file? place = some content
  others : ∀ other, other ≠ place → after.file? other = d.file? other
  folders : after.folders = d.folders

theorem write_ok {cwd : List String} {p : Path} (h : d.write cwd p content = .ok after) :
    ∃ place, d.locate cwd p = .ok place ∧ d.Wrote place content after := by
  unfold write at h
  split at h
  · cases h
  · split at h
    · cases h
    next place hl =>
      refine ⟨place, hl, ?_⟩
      split at h
      · cases h
      · split at h
        · obtain rfl := Except.ok.inj h
          exact ⟨file?_setFile, fun _ => file?_setFile_of_ne, rfl⟩
        · split at h <;> cases h

end CodeAtlas.Disk
