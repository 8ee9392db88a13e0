import CodeAtlas.Proofs.Document.Escapes
import CodeAtlas.Proofs.Document.Paths
import CodeAtlas.Symbol
import Mathlib.Data.List.TakeWhile

namespace CodeAtlas.Document

open Text CodeAtlas.Path

theorem cut_eq_none {c : Char} {text : List Char} (h : c ∉ text) : cut c text = (text, none) := by
  have hdrop : text.dropWhile (· ≠ c) = [] :=
    List.dropWhile_eq_nil_iff.mpr fun _ hx => decide_eq_true (ne_of_mem_of_not_mem hx h)
  rw [cut, hdrop]

theorem not_mem_percentEncode {c : Char} (h : isAddressChar c = false) (text : List Char) :
    c ∉ percentEncode text := fun hc => by
  rw [isAddressChar_of_mem hc] at h
  exact absurd h (by decide)

theorem not_isIgnored {c : Char} (h : isAddressChar c = true) : (!isIgnored c) = true := by
  rw [Bool.not_eq_true', ← Bool.not_eq_true]
  intro hc
  simp only [isIgnored, Bool.or_eq_true, beq_iff_eq] at hc
  obtain (rfl | rfl) | rfl := hc <;> exact absurd h (by decide)

def fileMark : List Char := ['f', 'i', 'l', 'e', ':', '/', '/']

theorem cleaned_file (text : List Char) :
    ((fileMark ++ percentEncode text).dropWhile isLeading).filter (!isIgnored ·) =
      fileMark ++ percentEncode text := by
  have hmark : ∀ c ∈ fileMark, (!isIgnored c) = true := List.all_eq_true.mp rfl
  have hdrop : (fileMark ++ percentEncode text).dropWhile isLeading =
      fileMark ++ percentEncode text := rfl
  rw [hdrop, List.filter_eq_self.mpr]
  exact List.forall_mem_append.mpr ⟨hmark, fun c hc => not_isIgnored (isAddressChar_of_mem hc)⟩

theorem parse_file (text : List Char) :
    Address.parse (fileMark ++ percentEncode ('/' :: text)) =
      .ok ⟨"file", percentEncode ('/' :: text)⟩ := by
  have hscheme : splitScheme (fileMark ++ percentEncode ('/' :: text)) =
      ("file".toList, '/' :: '/' :: percentEncode ('/' :: text)) := rfl
  have hhost : splitHost ('/' :: '/' :: percentEncode ('/' :: text)) =
      ([], percentEncode ('/' :: text)) := rfl
  have hfragment := cut_eq_none (not_mem_percentEncode (c := '#') rfl ('/' :: text))
  have hquery := cut_eq_none (not_mem_percentEncode (c := '?') rfl ('/' :: text))
  rw [Address.parse, cleaned_file]
  simp only [hscheme, hhost, hfragment, hquery]
  rfl

theorem parse_uriOfPath {p : Path} (h : p.IsFull) :
    Address.parse (uriOfPath p).toList = .ok ⟨"file", percentEncode p.toText.toList⟩ := by
  have huri : (uriOfPath p).toList = fileMark ++ percentEncode p.toText.toList := by
    rw [uriOfPath, String.toList_append, String.toList_ofList, String.toList_ofList]
    rfl
  rw [huri, toText_full h, parse_file]

/-- The first name of the path looks like a drive letter with its colon. -/
def startsWithDrive (p : Path) : Bool :=
  match p.segments with
  | [] => false
  | first :: _ => (first.toList.drop 1).head? == some ':'

theorem dropDriveSlash_slash (text : List Char) :
    dropDriveSlash ('/' :: text) =
      if (text.drop 1).head? = some ':' then text else '/' :: text := by
  cases text with
  | nil => rfl
  | cons c rest =>
      cases rest with
      | nil => rfl
      | cons d rest =>
          by_cases hd : d = ':'
          · simp [dropDriveSlash, hd]
          · simp [dropDriveSlash, hd]

theorem drop_joined {segments : List String} (h : ∀ s ∈ segments, IsSegment s) :
    ((joined segments).drop 1).head? = some ':' ↔ startsWithDrive ⟨.root, segments⟩ = true := by
  cases segments with
  | nil => simp [joined, startsWithDrive]
  | cons first more =>
      obtain ⟨c, rest, hc, -⟩ := exists_name (h first List.mem_cons_self)
      obtain ⟨tail, htail, hcolon⟩ := joined_cons hc more
      simp [htail, startsWithDrive, hc, hcolon]

theorem ofChars_dropDriveSlash {p : Path} (h : p.IsFull) :
    ofChars (dropDriveSlash p.toText.toList) =
      if startsWithDrive p then ⟨.relative, p.segments⟩ else p := by
  have htext := ofChars_toText h
  rw [toText_full h] at htext ⊢
  rw [dropDriveSlash_slash]
  by_cases hdrive : startsWithDrive p = true
  · rw [if_pos ((drop_joined h.proper).mpr hdrive), if_pos hdrive, ofChars_joined h.proper]
  · rw [if_neg fun hcolon => hdrive ((drop_joined h.proper).mp hcolon), if_neg hdrive, htext]

theorem pathOfUri_uriOfPath {p : Path} (h : p.IsFull) :
    pathOfUri (uriOfPath p) = .ok (if startsWithDrive p then ⟨.relative, p.segments⟩ else p) := by
  rw [pathOfUri, parse_uriOfPath h, ← ofChars_dropDriveSlash h]
  simp only [bind, Except.bind, percentDecode_percentEncode]
  rfl

theorem stemOfUri_uriOfPath {p : Path} (h : p.IsFull) :
    stemOfUri (uriOfPath p) = .ok (if p.stem = "" then uriOfPath p else p.stem) := by
  rw [stemOfUri, parse_uriOfPath h]
  simp only [bind, Except.bind, percentDecode_percentEncode, ofChars_toText h]
  rfl

theorem uriOfPath_injective {p q : Path} (hp : p.IsFull) (hq : q.IsFull)
    (h : uriOfPath p = uriOfPath q) : p = q := by
  have hparse := parse_uriOfPath hp
  rw [h, parse_uriOfPath hq] at hparse
  have hpath := congrArg Address.path (Except.ok.inj hparse)
  have htext := congrArg percentDecode hpath
  simp only [percentDecode_percentEncode] at htext
  rw [← ofChars_toText hp, ← ofChars_toText hq, htext]

theorem splitName_ne_nil {name : List Char} (h : name ≠ []) : (splitName name).1 ≠ [] := by
  simp only [splitName]
  split
  next hparts =>
    simp only [Bool.and_eq_true, Bool.not_eq_true', List.isEmpty_eq_false_iff] at hparts
    exact hparts.2
  next => exact h

theorem stem_eq_empty {p : Path} (h : p.IsFull) : p.stem = "" ↔ p.segments = [] := by
  constructor
  · intro hstem
    by_contra hne
    have hlast : p.name = p.segments.getLast hne := by
      rw [Path.name, List.getLast?_eq_some_getLast hne, Option.getD_some]
    have hname : p.name.toList ≠ [] := hlast ▸ (h.proper _ (List.getLast_mem hne)).ne_empty
    have hchars := congrArg String.toList hstem
    rw [stem, String.toList_ofList] at hchars
    exact splitName_ne_nil hname hchars
  · intro hnil
    rw [stem, Path.name, hnil]
    rfl

theorem qualifiedName_alone {s : Symbol} {ancestors : List Symbol}
    (hancestors : ∀ a ∈ ancestors, a.isContainer = false) (howner : s.containerName.truthy = false)
    {p : Path} (h : p.IsFull) (hstem : p.stem ≠ "") :
    s.qualifiedName ancestors (stemOfUri (uriOfPath p)) =
      .ok (.ofString p.stem ++ .ofString "." ++ .ofJson s.name) := by
  have hnone : ancestors.reverse.find? Symbol.isContainer = none := by
    rw [List.find?_eq_none]
    intro a ha
    simp [hancestors a (List.mem_reverse.mp ha)]
  simp only [Symbol.qualifiedName, hnone, howner, stemOfUri_uriOfPath h, if_neg hstem]
  rfl

/-- Whatever an absolute path was made from, it is found again from its
address, but for the leading slash when its first name has a colon in second
place. The paths that are made absolute here are among these. -/
theorem pathOfUri_normalised (full : Path) :
    (full.IsFull → pathOfUri (uriOfPath full) =
      .ok (if startsWithDrive full then ⟨.relative, full.segments⟩ else full)) ∧
    ∀ (env : Environment) (cwd : List String), (∀ s ∈ cwd, IsSegment s) →
      ∀ text : String, normalise env cwd (ofString text) = .ok full →
        full.IsFull ∧ pathOfUri (uriOfPath full) =
          .ok (if startsWithDrive full then ⟨.relative, full.segments⟩ else full) := by
  refine ⟨pathOfUri_uriOfPath, fun env cwd hcwd text h => ?_⟩
  have hfull := normalise_isFull hcwd h
  exact ⟨hfull, pathOfUri_uriOfPath hfull⟩

theorem pathOfUri_normalised_signs :
    (∀ s ∈ ["tmp"], IsSegment s) ∧
    normalise [] ["tmp"] (ofString "x/../a b/%41#é;?") = .ok ⟨.root, ["tmp", "a b", "%41#é;?"]⟩ ∧
    (Path.mk .root ["tmp", "a b", "%41#é;?"]).IsFull ∧
    pathOfUri (uriOfPath ⟨.root, ["tmp", "a b", "%41#é;?"]⟩) =
      .ok ⟨.root, ["tmp", "a b", "%41#é;?"]⟩ := by
  have hcwd : ∀ s ∈ ["tmp"], IsSegment s :=
    List.forall_mem_singleton.mpr ⟨by decide, by decide, by decide⟩
  have hfull : normalise [] ["tmp"] (ofString "x/../a b/%41#é;?") =
      .ok ⟨.root, ["tmp", "a b", "%41#é;?"]⟩ := by
    rfl
  exact ⟨hcwd, hfull, (pathOfUri_normalised _).2 [] ["tmp"] hcwd _ hfull⟩

/-- The address of a directory that is named like a drive leads to a relative
path. -/
theorem drive_loses_root : ¬ ∀ (env : Environment) (cwd : List String) (text : String)
    (full : Path), (∀ s ∈ cwd, IsSegment s) → normalise env cwd (ofString text) = .ok full →
      pathOfUri (uriOfPath full) = .ok full := by
  intro h
  have hfull : normalise [] [] (ofString "/c:/x") = .ok ⟨.root, ["c:", "x"]⟩ := rfl
  have hcwd : ∀ s ∈ ([] : List String), IsSegment s := by simp
  have hback := h [] [] "/c:/x" _ hcwd hfull
  rw [pathOfUri_uriOfPath (normalise_isFull hcwd hfull)] at hback
  have hanchor := congrArg Path.anchor (Except.ok.inj hback)
  exact absurd hanchor (by decide)

/-- Two absolute paths share an address only if they name the same file. Every
file but the root keeps its stem, which names a function that has no container.
The paths that are made absolute here are among these. -/
theorem uriOfPath_identifies (full full' : Path) :
    (∀ (env : Environment) (cwd : List String), (∀ s ∈ cwd, IsSegment s) →
      ∀ text : String, normalise env cwd (ofString text) = .ok full → full.IsFull) ∧
    (full.IsFull → full'.IsFull →
      (uriOfPath full = uriOfPath full' ↔ full = full') ∧
      (full.stem = "" ↔ full.segments = []) ∧
      (full.stem ≠ "" → stemOfUri (uriOfPath full) = .ok full.stem ∧
        ∀ (s : Symbol) (ancestors : List Symbol), (∀ a ∈ ancestors, a.isContainer = false) →
          s.containerName.truthy = false →
            s.qualifiedName ancestors (stemOfUri (uriOfPath full)) =
              .ok (.ofString full.stem ++ .ofString "." ++ .ofJson s.name))) := by
  refine ⟨fun env cwd hcwd text h => normalise_isFull hcwd h, fun hfull hfull' => ?_⟩
  refine ⟨⟨uriOfPath_injective hfull hfull', congrArg uriOfPath⟩,
    stem_eq_empty hfull, fun hstem => ⟨?_, fun s ancestors hancestors howner =>
      qualifiedName_alone hancestors howner hfull hstem⟩⟩
  rw [stemOfUri_uriOfPath hfull, if_neg hstem]

theorem uriOfPath_identifies_home :
    (∀ s ∈ ["tmp"], IsSegment s) ∧
    normalise [("HOME", "/h/")] ["tmp"] (ofString "~/a.b/%2E?;.tar.é") =
      .ok ⟨.root, ["h", "a.b", "%2E?;.tar.é"]⟩ ∧
    normalise [("HOME", "/h/")] ["tmp"] (ofString "../h//a.b/..?;.tar.é") =
      .ok ⟨.root, ["h", "a.b", "..?;.tar.é"]⟩ ∧
    uriOfPath ⟨.root, ["h", "a.b", "%2E?;.tar.é"]⟩ ≠ uriOfPath ⟨.root, ["h", "a.b", "..?;.tar.é"]⟩ ∧
    stemOfUri (uriOfPath ⟨.root, ["h", "a.b", "%2E?;.tar.é"]⟩) = .ok "%2E?;.tar" := by
  have hcwd : ∀ s ∈ ["tmp"], IsSegment s :=
    List.forall_mem_singleton.mpr ⟨by decide, by decide, by decide⟩
  have hfull : normalise [("HOME", "/h/")] ["tmp"] (ofString "~/a.b/%2E?;.tar.é") =
      .ok ⟨.root, ["h", "a.b", "%2E?;.tar.é"]⟩ := rfl
  have hother : normalise [("HOME", "/h/")] ["tmp"] (ofString "../h//a.b/..?;.tar.é") =
      .ok ⟨.root, ["h", "a.b", "..?;.tar.é"]⟩ := rfl
  obtain ⟨hmade, hidentifies⟩ := uriOfPath_identifies
    ⟨.root, ["h", "a.b", "%2E?;.tar.é"]⟩ ⟨.root, ["h", "a.b", "..?;.tar.é"]⟩
  obtain ⟨hsame, -, hstem⟩ := hidentifies (hmade _ _ hcwd _ hfull) (normalise_isFull hcwd hother)
  refine ⟨hcwd, hfull, hother, fun huri => absurd (hsame.mp huri) (by decide), ?_⟩
  exact (hstem (by decide)).1

end CodeAtlas.Document
