import CodeAtlas.Proofs.CallTrace.Places
import CodeAtlas.Proofs.CallTrace.Script
import CodeAtlas.Proofs.Client.Flattened
import CodeAtlas.Proofs.Document.Order

namespace CodeAtlas

def CallTarget.whole (target : CallTarget) : CallTarget := { target with selection := target.range }

namespace CallTrace

open Client Document

variable {σ : Type} (w : World σ) {s t : Session σ} {target : CallTarget} {tree : CallTree}
  {maxDepth : Int} {file : String} {p : Position}

theorem openAt_flat {w w' : World σ} (hw : GivesFlat w w') (l : Location) :
    openAt w' l = Option.map flatDocument <$> openAt w l := by
  rw [openAt, openAt, ← tryCatch_map]
  congr 1
  · simp [openDocument_flat hw]
  · funext e
    split <;> simp

theorem named_of_openAt {l : Location} {document : OpenDocument}
    (h : outcome (openAt w l) s = (.ok (some document), t)) :
    ∀ symbol ∈ document.symbols, Symbol.Named symbol := by
  obtain ⟨-, uri, u, v, houtline⟩ := openAt_ok w h
  obtain hnil | ⟨params, state, reply, -, hsymbols⟩ := outline_ok w houtline
  · simp [hnil]
  · exact named_of_mapM hsymbols

theorem targetFor_flat {w w' : World σ} (hw : GivesFlat w w') (l : Location) :
    targetFor w' l = Option.map CallTarget.whole <$> targetFor w l := by
  apply ext_outcome
  intro s
  rw [targetFor, openAt_flat hw, bind_map_left, targetFor, map_bind]
  apply outcome_bind_congr rfl
  intro found t hopen
  cases found with
  | none => simp
  | some document =>
      -- Only names that were read are sure to stay the same in a flat outline.
      have hnamed := named_of_openAt w hopen
      simp only [Option.map_some, flatDocument, Symbol.enclosing?_flatOutline]
      cases henclosing : Symbol.enclosing? document.symbols l.range with
      | none => simp
      | some entry =>
          have ha := (Symbol.named_of_mem_walk hnamed (Symbol.mem_walk_of_enclosing? henclosing)).2
          simp only [Option.map_some, Symbol.flatEntry, Symbol.qualifiedName_flat ha]
          simp [CallTarget.whole, Symbol.flat]

theorem sitesOf_whole {text : List Char} {body : List Char} (hr : target.range.Natural)
    (hb : slice text (some target.range) = .ok body) : sitesOf target.whole body = [] := by
  rw [List.eq_nil_iff_forall_not_mem]
  intro site hsite
  obtain ⟨ho, hcalls⟩ := CallSite.calls_of_mem_extract hsite
  have hskip := CallSite.skip_of_mem_extract hsite
  have hlt : site.offset < body.length := by
    refine Nat.lt_of_le_of_ne ho fun he => ?_
    obtain ⟨blanks, rest, -, hrest⟩ := hcalls.opens
    rw [he, List.drop_length] at hrest
    simp at hrest
  have hcut : Cut (body.take site.offset) (body.drop site.offset) := by
    rintro ⟨-, hhead⟩
    exact hcalls.head_ne hhead
  -- Every site is inside of the range that was searched, and so is skipped.
  have hinside := contains_positionOf hr hb hlt hcut
  exact Bool.false_ne_true (hskip.symm.trans hinside)

theorem trace_whole (hs : Known s target) (levels : Nat) :
    ∃ seen, outcome (trace (flattened w) levels target.whole []) s =
      (.ok (.leaf target.name, seen), s) := by
  cases levels with
  | zero => exact ⟨[], rfl⟩
  | succ levels =>
      obtain ⟨text, hl⟩ := hs.opened
      obtain ⟨before, body, after, hb, -⟩ := slice_natural text.toList hs.natural
      have hread : outcome (readText (flattened w) target.whole.uri (some target.whole.range)) s =
          (.ok (String.ofList body), s) := by
        have hfound : outcome (readText (flattened w) target.uri (some target.range)) s = _ :=
          outcome_readText_known _ hl _
        rwa [hb] at hfound
      have hsites : Traced (flattened w) levels (.sites target.whole (String.ofList body).toList
          (sitesOf target.whole (String.ofList body).toList)) ([] ++ [target.name]) s [] []
          [target.name] s := by
        rw [String.toList_ofList, sitesOf_whole hs.natural hb]
        exact .done ..
      have hexpand := Traced.expand List.not_mem_nil hread hsites
      exact ⟨_, trace_ok_iff.mpr ⟨_, hexpand⟩⟩

theorem map_leaf_eq_iff (found : Option CallTree) :
    (found.map fun tree => CallTree.leaf tree.name) = found ↔
      ∀ tree ∈ found, tree.isLeaf = true := by
  cases found with
  | none => simp
  | some tree =>
      obtain ⟨name, _ | ⟨first, rest⟩⟩ := tree
      · simp [CallTree.leaf, CallTree.name, CallTree.isLeaf, CallTree.children]
      · simp [CallTree.leaf, CallTree.isLeaf, CallTree.children]

def rootAt (file : String) (p : Position) : Client σ (Option CallTarget) := do
  require w [implementationCapability, outlineCapability]
  let path ← attempt (w.absolute (Path.ofString file))
  targetFor w ⟨.text (uriOfPath path), .point p⟩

def traceFrom (maxDepth : Int) (file : String) (p : Position) :
    Option CallTarget → Client σ (Option CallTree)
  | none => do
    note .info .calls (← attempt (missingNote file p))
    return none
  | some root => do
    let (tree, _) ← trace w (levelsLeft maxDepth 0) root []
    return some tree

theorem traceAt_eq (maxDepth : Int) (file : String) (p : Position) :
    traceAt w maxDepth file p = rootAt w file p >>= traceFrom w maxDepth file p := by
  rw [traceAt, rootAt, bind_assoc]
  congr 1
  funext _
  rw [bind_assoc]
  rfl

theorem rootAt_flattened (file : String) (p : Position) :
    rootAt (flattened w) file p = Option.map CallTarget.whole <$> rootAt w file p := by
  simp [rootAt, targetFor_flat (givesFlat_flattened w)]
  rfl

theorem rootAt_ok (hw : NaturalOutlines w)
    (h : outcome (rootAt w file p) s = (.ok (some target), t)) : Known t target := by
  obtain ⟨_, _, -, h⟩ := outcome_bind_ok.mp h
  obtain ⟨_, _, -, h⟩ := outcome_bind_ok.mp h
  exact targetFor_ok w hw h

theorem traceFrom_whole {root : Option CallTarget} (hs : ∀ target ∈ root, Known s target)
    {found : Option CallTree}
    (h : outcome (traceFrom w maxDepth file p root) s = (.ok found, t)) :
    ∃ u, outcome (traceFrom (flattened w) maxDepth file p (root.map CallTarget.whole)) s =
      (.ok (found.map fun tree => .leaf tree.name), u) := by
  cases root with
  | none =>
      obtain ⟨message, u, -, hnote⟩ := outcome_bind_ok.mp h
      obtain ⟨rfl, -⟩ : none = found ∧ _ := by simpa [outcome_map, Except.map] using hnote
      exact ⟨t, h⟩
  | some root =>
      obtain ⟨⟨tree, seen⟩, u, htrace, h⟩ := outcome_bind_ok.mp h
      obtain ⟨rfl, rfl⟩ : some tree = found ∧ u = t := by simpa using h
      obtain ⟨expansions, htraced⟩ := trace_ok_iff.mp htrace
      have hname : tree.name = root.name := by simpa using htraced.found_name
      obtain ⟨seen', hwhole⟩ := trace_whole w (hs root rfl) (levelsLeft maxDepth 0)
      refine ⟨s, outcome_bind_ok.mpr ⟨_, s, hwhole, ?_⟩⟩
      simp [hname]

/-- With flat outlines every trace is the name that it starts from. It is the
same as with nested ones only if nothing is called. -/
theorem traceAt_flattened (hw : NaturalOutlines w) {found : Option CallTree}
    (h : outcome (traceAt w maxDepth file p) s = (.ok found, t)) :
    (∃ u, outcome (traceAt (flattened w) maxDepth file p) s =
      (.ok (found.map fun tree => .leaf tree.name), u)) ∧
    ((found.map fun tree => .leaf tree.name) = found ↔ ∀ tree ∈ found, tree.isLeaf = true) := by
  refine ⟨?_, map_leaf_eq_iff found⟩
  rw [traceAt_eq] at h
  obtain ⟨root, u, hroot, h⟩ := outcome_bind_ok.mp h
  have hknown : ∀ target ∈ root, Known u target := by
    rintro target rfl
    exact rootAt_ok w hw hroot
  obtain ⟨u', hfound⟩ := traceFrom_whole w hknown h
  have hroot' : outcome (rootAt (flattened w) file p) s =
      (.ok (root.map CallTarget.whole), u) := by
    rw [rootAt_flattened, outcome_map, hroot]
    rfl
  rw [traceAt_eq]
  exact ⟨u', outcome_bind_ok.mpr ⟨_, u, hroot', hfound⟩⟩

def Line.entry (l : Line) : Symbol :=
  ⟨.text (String.singleton l.name), 12, l.extent, l.selection, [], .null⟩

theorem Line.ofJson_symbol (l : Line) : Symbol.ofJson l.symbol = .ok l.entry := by
  have hread : Symbol.ofJson l.symbol =
      .ok { l.entry with name := l.entry.name.orElse (.text unknownName) } := rfl
  have htruthy : l.entry.name.truthy = true := by simp [Line.entry, Json.truthy]
  rw [hread, Json.orElse, if_pos htruthy]
  rfl

theorem Script.naturalOutlines (script : Script) : NaturalOutlines script.world := by
  intro params state reply symbols hreply hsymbols entry hentry
  obtain rfl : .list (script.lines.map Line.symbol) = reply := Except.ok.inj hreply
  have hread : (script.lines.map Line.symbol).mapM Symbol.ofJson =
      .ok (script.lines.map Line.entry) := mapM_map_ok fun l _ => l.ofJson_symbol
  rw [objects_list fun _ _ => rfl, hread] at hsymbols
  obtain rfl := Except.ok.inj hsymbols
  rw [Symbol.walk, Symbol.walkAll_eq, List.flatMap_map, List.mem_flatMap] at hentry
  obtain ⟨l, -, hl⟩ := hentry
  obtain rfl : entry = (l.entry, []) := by
    simpa [Symbol.walkOne, Symbol.walkAll, Line.entry] using hl
  constructor <;> constructor <;> simp [Line.entry, Line.extent]

theorem traceAt_flattened_diamond : NaturalOutlines Script.diamond.world ∧ ∃ tree t,
    outcome (traceAt Script.diamond.world 5 "/m" .origin) (.start ()) = (.ok (some tree), t) ∧
    tree.name = "m.r" ∧
    (∃ u, outcome (traceAt (flattened Script.diamond.world) 5 "/m" .origin) (.start ()) =
      (.ok (some (.leaf "m.r")), u)) ∧
    (some (.leaf "m.r") = some tree ↔ tree.isLeaf = true) := by
  have hw := Script.diamond.naturalOutlines
  obtain ⟨found, t, h, hname⟩ : ∃ found t,
      outcome (traceAt Script.diamond.world 5 "/m" .origin) (.start ()) = (.ok found, t) ∧
        found.map CallTree.name = some "m.r" := exists_result (by decide +kernel)
  obtain ⟨tree, rfl, hroot⟩ := Option.map_eq_some_iff.mp hname
  obtain ⟨hflat, hsame⟩ := traceAt_flattened Script.diamond.world hw h
  refine ⟨hw, tree, t, h, hroot, ?_, ?_⟩
  · simpa [hroot] using hflat
  · simpa [hroot] using hsame

/-- The nested outline selects the names of the functions and nothing else,
and leads to their calls. -/
theorem flat_outline_hides_calls :
    (∀ l ∈ Script.diamond.lines,
      (slice Script.diamond.text (some l.selection)).toOption = some [l.name]) ∧
    ∃ found t found' t',
      outcome (traceAt Script.diamond.world 5 "/m" .origin) (.start ()) = (.ok found, t) ∧
      outcome (traceAt (flattened Script.diamond.world) 5 "/m" .origin) (.start ()) =
        (.ok found', t') ∧
      found.map CallTree.names = some (["m.r", "m.a", "m.c", "m.d", "m.b", "m.c"] : List Name) ∧
      found'.map CallTree.names = some (["m.r"] : List Name) := by
  obtain ⟨found, t, h, hnames⟩ : ∃ found t,
      outcome (traceAt Script.diamond.world 5 "/m" .origin) (.start ()) = (.ok found, t) ∧
      found.map CallTree.names = some (["m.r", "m.a", "m.c", "m.d", "m.b", "m.c"] : List Name) :=
    exists_result (by decide +kernel)
  obtain ⟨found', t', h', hnames'⟩ : ∃ found t,
      outcome (traceAt (flattened Script.diamond.world) 5 "/m" .origin) (.start ()) =
        (.ok found, t) ∧
      found.map CallTree.names = some (["m.r"] : List Name) := exists_result (by decide +kernel)
  exact ⟨by decide +kernel, found, t, found', t', h, h', hnames, hnames'⟩

end CallTrace

end CodeAtlas
