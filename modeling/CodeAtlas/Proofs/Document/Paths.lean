import CodeAtlas.Document.Path

namespace CodeAtlas.Path

theorem splitSlashes_eq (text : List Char) : splitSlashes text = text.splitOn '/' := by
  induction text with
  | nil => rfl
  | cons c rest ih =>
      rw [List.splitOn_cons_eq_if_modifyHead, ← ih, splitSlashes]
      cases h : splitSlashes rest with
      | nil => exact absurd (ih ▸ h) (List.splitOn_ne_nil '/' rest)
      | cons piece more => by_cases hc : c = '/' <;> simp [hc]

theorem slash_not_mem {text piece : List Char} (h : piece ∈ splitSlashes text) : '/' ∉ piece := by
  induction text generalizing piece with
  | nil =>
      obtain rfl := List.mem_singleton.mp h
      exact List.not_mem_nil
  | cons c rest ih =>
      rw [splitSlashes_eq, List.splitOn_cons_eq_if_modifyHead, ← splitSlashes_eq] at h
      split at h
      next =>
        obtain rfl | hlater := List.mem_cons.mp h
        · exact List.not_mem_nil
        · exact ih hlater
      next hc =>
        cases hsplit : splitSlashes rest with
        | nil => simp [hsplit] at h
        | cons first more =>
            rw [hsplit] at h ih
            obtain rfl | hlater := List.mem_cons.mp h
            · have hfirst := ih List.mem_cons_self
              rintro hmem
              obtain rfl | hmem := List.mem_cons.mp hmem
              · exact hc (beq_self_eq_true _)
              · exact hfirst hmem
            · exact ih (List.mem_cons_of_mem _ hlater)

/-- A name in a path: without slashes, and neither empty nor a single dot. -/
structure IsSegment (s : String) : Prop where
  ne_empty : s.toList ≠ []
  ne_dot : s.toList ≠ ['.']
  noSlash : '/' ∉ s.toList

theorem isSegment_of_mem {text : List Char} {s : String} (h : s ∈ segmentsOf text) :
    IsSegment s := by
  obtain ⟨piece, hpiece, rfl⟩ := List.mem_map.mp h
  obtain ⟨hsplit, hkept⟩ := List.mem_filter.mp hpiece
  simp only [Bool.and_eq_true, Bool.not_eq_true', List.isEmpty_eq_false_iff, bne_iff_ne] at hkept
  constructor <;> rw [String.toList_ofList]
  · exact hkept.1
  · exact hkept.2
  · exact slash_not_mem hsplit

def joined (segments : List String) : List Char := ['/'].intercalate (segments.map String.toList)

theorem segmentsOf_joined {segments : List String} (h : ∀ s ∈ segments, IsSegment s) :
    segmentsOf (joined segments) = segments := by
  cases segments with
  | nil => rfl
  | cons first more =>
      have hslash : ∀ piece ∈ (first :: more).map String.toList, '/' ∉ piece :=
        List.forall_mem_map.mpr fun s hs => (h s hs).noSlash
      have hkept : ∀ piece ∈ (first :: more).map String.toList,
          (!piece.isEmpty && piece != ['.']) = true := by
        refine List.forall_mem_map.mpr fun s hs => ?_
        simp [(h s hs).ne_empty, (h s hs).ne_dot]
      rw [segmentsOf, splitSlashes_eq, joined, List.splitOn_intercalate '/' hslash (by simp),
        List.filter_eq_self.mpr hkept, List.map_map]
      exact (List.map_congr_left fun s _ => String.ofList_toList).trans (List.map_id _)

theorem segmentsOf_slash (text : List Char) : segmentsOf ('/' :: text) = segmentsOf text := by
  rw [segmentsOf, splitSlashes_eq, List.splitOn_cons_eq_if_modifyHead, ← splitSlashes_eq]
  rfl

theorem exists_name {s : String} (h : IsSegment s) : ∃ c rest, s.toList = c :: rest ∧ c ≠ '/' := by
  obtain ⟨c, rest, hc⟩ := List.exists_cons_of_ne_nil h.ne_empty
  refine ⟨c, rest, hc, ?_⟩
  rintro rfl
  exact h.noSlash (by simp [hc])

theorem joined_cons {first : String} {c : Char} {rest : List Char} (h : first.toList = c :: rest)
    (more : List String) : ∃ tail, joined (first :: more) = c :: tail ∧
      (tail.head? = some ':' ↔ rest.head? = some ':') := by
  cases more with
  | nil => exact ⟨rest, by simp [joined, h], Iff.rfl⟩
  | cons second more =>
      refine ⟨rest ++ '/' :: joined (second :: more), by simp [joined, h], ?_⟩
      cases rest <;> simp

theorem head_joined {segments : List String} (h : ∀ s ∈ segments, IsSegment s) :
    (joined segments).head? ≠ some '/' := by
  cases segments with
  | nil => simp [joined]
  | cons first more =>
      obtain ⟨c, rest, hc, hslash⟩ := exists_name (h first List.mem_cons_self)
      obtain ⟨tail, htail, -⟩ := joined_cons hc more
      simpa [htail] using hslash

structure IsFull (p : Path) : Prop where
  root : p.anchor = .root
  proper : ∀ s ∈ p.segments, IsSegment s

theorem toText_full {p : Path} (h : p.IsFull) : p.toText.toList = '/' :: joined p.segments := by
  have htext : (anchorText p.anchor ++ "/".intercalate p.segments).toList =
      '/' :: joined p.segments := by
    rw [h.root, String.toList_append, String.toList_intercalate]
    rfl
  rw [toText]
  split
  next hempty => simp [hempty] at htext
  next => exact htext

theorem anchorOf_slash {text : List Char} (h : text.head? ≠ some '/') :
    anchorOf ('/' :: text) = .root := by
  cases text with
  | nil => rfl
  | cons c rest =>
      rw [anchorOf] <;> rintro tail heq <;> simp_all

theorem anchorOf_name {text : List Char} (h : text.head? ≠ some '/') :
    anchorOf text = .relative := by
  rw [anchorOf] <;> rintro tail rfl <;> exact h rfl

theorem ofChars_toText {p : Path} (h : p.IsFull) : ofChars p.toText.toList = p := by
  rw [toText_full h, ofChars, anchorOf_slash (head_joined h.proper), segmentsOf_slash,
    segmentsOf_joined h.proper, ← h.root]

theorem ofChars_joined {segments : List String} (h : ∀ s ∈ segments, IsSegment s) :
    ofChars (joined segments) = ⟨.relative, segments⟩ := by
  rw [ofChars, anchorOf_name (head_joined h), segmentsOf_joined h]

theorem mem_of_mem_collapse {segments : List String} {s : String} (h : s ∈ collapse segments) :
    s ∈ segments := by
  suffices hfold : ∀ done, s ∈ segments.foldl
      (fun done s => if s = ".." then done.dropLast else done ++ [s]) done →
      s ∈ done ∨ s ∈ segments from (hfold [] h).resolve_left List.not_mem_nil
  clear h
  induction segments with
  | nil => exact fun done h => .inl h
  | cons t rest ih =>
      intro done h
      rw [List.foldl_cons] at h
      obtain hdone | hrest := ih _ h
      · split at hdone
        next => exact .inl ((List.dropLast_sublist done).subset hdone)
        next =>
          obtain hdone | rfl := List.mem_append.mp hdone |>.imp_right List.mem_singleton.mp
          · exact .inl hdone
          · exact .inr List.mem_cons_self
      · exact .inr (List.mem_cons_of_mem _ hrest)

theorem homeOf_proper {env : Environment} {segment : String} {home : Path}
    (h : homeOf env segment = .ok home) : ∀ s ∈ home.segments, IsSegment s := by
  simp only [homeOf] at h
  split at h
  next => exact absurd h (by simp)
  next =>
    split at h
    next => exact absurd h (by simp)
    next =>
      obtain rfl := Except.ok.inj h
      exact fun s hs => isSegment_of_mem hs

theorem expandHome_proper {env : Environment} {p q : Path} (hp : ∀ s ∈ p.segments, IsSegment s)
    (h : p.expandHome env = .ok q) : ∀ s ∈ q.segments, IsSegment s := by
  unfold expandHome at h
  split at h
  next first rest _ hsegments =>
    split at h
    next =>
      cases hhome : homeOf env first with
      | error e => simp [hhome, Except.map] at h
      | ok home =>
          simp only [hhome, Except.map] at h
          obtain rfl := Except.ok.inj h
          refine List.forall_mem_append.mpr ⟨homeOf_proper hhome, fun s hs => hp s ?_⟩
          rw [hsegments]
          exact List.mem_cons_of_mem _ hs
    next => exact Except.ok.inj h ▸ hp
  next => exact Except.ok.inj h ▸ hp

theorem resolve_isFull {cwd : List String} (hcwd : ∀ s ∈ cwd, IsSegment s) {p full : Path}
    (hp : ∀ s ∈ p.segments, IsSegment s) (h : resolve cwd p = .ok full) : full.IsFull := by
  unfold resolve at h
  split at h
  next => exact absurd h (by simp)
  next =>
    split at h <;> obtain rfl := Except.ok.inj h
    next =>
      exact ⟨rfl, fun s hs => List.forall_mem_append.mpr ⟨hcwd, hp⟩ s (mem_of_mem_collapse hs)⟩
    next => exact ⟨rfl, fun s hs => hp s (mem_of_mem_collapse hs)⟩

theorem normalise_isFull {env : Environment} {cwd : List String} (hcwd : ∀ s ∈ cwd, IsSegment s)
    {text : String} {full : Path} (h : normalise env cwd (ofString text) = .ok full) :
    full.IsFull := by
  unfold normalise at h
  cases hhome : (ofString text).expandHome env with
  | error e => simp [hhome, Except.bind] at h
  | ok p =>
      rw [hhome] at h
      exact resolve_isFull hcwd (expandHome_proper (fun s hs => isSegment_of_mem hs) hhome) h

end CodeAtlas.Path
