import CodeAtlas.CallTrace
import CodeAtlas.Proofs.CallSites.Places
import CodeAtlas.Proofs.Client.Opening
import CodeAtlas.Proofs.Document.Slices

namespace CodeAtlas

namespace Symbol

variable {symbols : List Symbol} {target : Range} {entry : Symbol × List Symbol}

theorem better_eq_some {best : Option (Symbol × List Symbol)} {candidate : Symbol × List Symbol}
    (h : better best target candidate = some entry) : best = some entry ∨ candidate = entry := by
  unfold better at h
  split at h
  · exact .inl h
  · split at h
    · exact .inr (Option.some.inj h)
    · split at h
      · exact .inr (Option.some.inj h)
      · exact .inl h

theorem mem_walk_of_enclosing? (h : enclosing? symbols target = some entry) :
    entry ∈ walk symbols := by
  have go (entries : List (Symbol × List Symbol)) (best : Option (Symbol × List Symbol))
      (h : entries.foldl (fun best entry => better best target entry) best = some entry) :
      best = some entry ∨ entry ∈ entries := by
    induction entries generalizing best with
    | nil => exact .inl h
    | cons first rest ih =>
        obtain h | h := ih _ h
        · apply (better_eq_some h).imp_right
          rintro rfl
          exact List.mem_cons_self
        · exact .inr (List.mem_cons_of_mem _ h)
  exact (go _ _ h).resolve_left (by simp)

end Symbol

namespace CallTrace

open Client Document

variable {σ : Type} (w : World σ) {allowed : List Sent → Sent → Prop} {s t : Session σ}

/-- No range in an outline counts from the end. -/
def NaturalOutlines : Prop :=
  ∀ params state reply symbols, (w.request outlineMethod params state).result = .ok reply →
    (objects reply).mapM Symbol.ofJson = .ok symbols →
      ∀ entry ∈ Symbol.walk symbols, entry.1.range.Natural

structure Known (s : Session σ) (target : CallTarget) : Prop where
  opened : ∃ text, s.texts.lookup target.uri = some text
  natural : target.range.Natural

theorem Known.steps {target : CallTarget} (h : Known s target) (hs : Steps allowed s t) :
    Known t target := ⟨h.opened.imp fun _ => hs.lookup, h.natural⟩

theorem within_openAt (ho : ∀ traffic m, m.method = outlineMethod → allowed traffic m)
    (l : Location) (s : Session σ) : Within allowed (openAt w l) s := by
  refine Within.tryCatch ?_ fun e t _ => ?_
  · refine (within_attempt _ s).bind fun uri t _ => ?_
    refine (within_openDocument w fun u _ => ?_).bind fun document v _ => within_pure _ v
    exact ho _ _ rfl
  · split
    · exact (within_note _ _ _ t).bind fun _ u _ => within_pure _ u
    · exact within_throw e t

theorem openAt_ok {l : Location} {document : OpenDocument}
    (h : outcome (openAt w l) s = (.ok (some document), t)) :
    t.texts.lookup document.uri = some document.text ∧
      ∃ uri u v, outcome (outline w uri) u = (.ok document.symbols, v) := by
  rw [openAt, outcome_tryCatch] at h
  split at h
  next found u hopen =>
    obtain ⟨rfl, rfl⟩ : found = some document ∧ u = t := by simpa using h
    obtain ⟨uri, v, -, hopen⟩ := outcome_bind_ok.mp hopen
    obtain ⟨opened, v', hd, hr⟩ := outcome_bind_ok.mp hopen
    obtain ⟨rfl, rfl⟩ : opened = document ∧ v' = u := by simpa using hr
    obtain ⟨rfl, hl, hs⟩ := openDocument_ok w hd
    exact ⟨hl, _, hs⟩
  next e u _ =>
    split at h
    · obtain ⟨_, _, -, h⟩ := outcome_bind_ok.mp h
      simp at h
    · simp at h

theorem within_targetFor (ho : ∀ traffic m, m.method = outlineMethod → allowed traffic m)
    (l : Location) (s : Session σ) : Within allowed (targetFor w l) s := by
  refine (within_openAt w ho l s).bind fun found t _ => ?_
  cases found with
  | none => exact within_pure _ t
  | some document =>
      simp only
      cases Symbol.enclosing? document.symbols l.range with
      | none => exact within_pure _ t
      | some entry => exact (within_attempt _ t).bind fun name u _ => within_pure _ u

theorem targetFor_found {l : Location} {target : CallTarget}
    (h : outcome (targetFor w l) s = (.ok (some target), t)) :
    ∃ document entry, outcome (openAt w l) s = (.ok (some document), t) ∧
      entry ∈ Symbol.walk document.symbols ∧ target.uri = document.uri ∧
      target.range = entry.1.range := by
  obtain ⟨found, u, hopen, h⟩ := outcome_bind_ok.mp h
  cases found with
  | none => simp at h
  | some document =>
      simp only at h
      cases henclosing : Symbol.enclosing? document.symbols l.range with
      | none => simp [henclosing] at h
      | some entry =>
          simp only [henclosing] at h
          obtain ⟨name, u', hname, h⟩ := outcome_bind_ok.mp h
          obtain ⟨-, rfl⟩ : _ ∧ u = u' := by simpa using hname
          obtain ⟨rfl, rfl⟩ : _ ∧ u = t := by simpa using h
          exact ⟨document, entry, hopen, Symbol.mem_walk_of_enclosing? henclosing, rfl, rfl⟩

theorem targetFor_opened {l : Location} {target : CallTarget}
    (h : outcome (targetFor w l) s = (.ok (some target), t)) :
    ∃ text, t.texts.lookup target.uri = some text := by
  obtain ⟨document, -, hopen, -, huri, -⟩ := targetFor_found w h
  exact ⟨document.text, huri ▸ (openAt_ok w hopen).1⟩

theorem targetFor_ok (hw : NaturalOutlines w) {l : Location} {target : CallTarget}
    (h : outcome (targetFor w l) s = (.ok (some target), t)) : Known t target := by
  obtain ⟨document, entry, hopen, hmem, -, hrange⟩ := targetFor_found w h
  obtain ⟨-, uri, v, v', houtline⟩ := openAt_ok w hopen
  refine ⟨targetFor_opened w h, hrange ▸ ?_⟩
  obtain hnil | ⟨params, state, reply, hreply, hsymbols⟩ := outline_ok w houtline
  · simp [hnil, Symbol.walk, Symbol.walkAll] at hmem
  · exact hw params state reply _ hreply hsymbols entry hmem

theorem within_firstTarget (ho : ∀ traffic m, m.method = outlineMethod → allowed traffic m)
    (locations : List Location) (s : Session σ) : Within allowed (firstTarget w locations) s := by
  induction locations generalizing s with
  | nil => exact within_pure _ s
  | cons l rest ih =>
      refine (within_targetFor w ho l s).bind fun found t _ => ?_
      cases found with
      | none => exact ih t
      | some target => exact within_pure _ t

theorem firstTarget_found {locations : List Location} {target : CallTarget}
    (h : outcome (firstTarget w locations) s = (.ok (some target), t)) :
    ∃ l u, outcome (targetFor w l) u = (.ok (some target), t) := by
  induction locations generalizing s with
  | nil => simp [firstTarget] at h
  | cons l rest ih =>
      obtain ⟨found, u, hfound, h⟩ := outcome_bind_ok.mp h
      cases found with
      | none => exact ih h
      | some other =>
          obtain ⟨rfl, rfl⟩ : other = target ∧ u = t := by simpa using h
          exact ⟨l, s, hfound⟩

theorem within_resolve (ho : ∀ traffic m, m.method = outlineMethod → allowed traffic m)
    {target : CallTarget} {p : Position} {site : CallSite}
    (hs : allowed s.traffic ⟨implementationMethod, .object (placeParams (.text target.uri) p)⟩) :
    Within allowed (resolve w target p site) s := by
  refine (within_implementations w hs).bind fun locations t _ => ?_
  split
  · exact (within_note _ _ _ t).bind fun _ u _ => within_pure _ u
  · refine (within_firstTarget w ho locations t).bind fun found u _ => ?_
    cases found with
    | none => exact (within_note _ _ _ u).bind fun _ v _ => within_pure _ v
    | some callee => exact within_pure _ u

theorem resolve_found {target callee : CallTarget} {p : Position} {site : CallSite}
    (h : outcome (resolve w target p site) s = (.ok (some callee), t)) :
    ∃ l u, outcome (targetFor w l) u = (.ok (some callee), t) := by
  obtain ⟨locations, u, -, h⟩ := outcome_bind_ok.mp h
  split at h
  · obtain ⟨_, _, -, h⟩ := outcome_bind_ok.mp h
    simp at h
  · obtain ⟨found, v, hfound, h⟩ := outcome_bind_ok.mp h
    cases found with
    | none =>
        obtain ⟨_, _, -, h⟩ := outcome_bind_ok.mp h
        simp at h
    | some other =>
        obtain ⟨rfl, rfl⟩ : other = callee ∧ v = t := by simpa using h
        exact firstTarget_found w hfound

theorem resolve_ok (hw : NaturalOutlines w) {target callee : CallTarget} {p : Position}
    {site : CallSite} (h : outcome (resolve w target p site) s = (.ok (some callee), t)) :
    Known t callee := by
  obtain ⟨l, u, hfound⟩ := resolve_found w h
  exact targetFor_ok w hw hfound

/-- The message asks about a place in a document that was announced. At that
place in the announced text a name is called. -/
def AtCall (traffic : List Sent) (m : Sent) : Prop :=
  ∃ uri p text o name, m.params = .object (placeParams (.text uri) p) ∧
    LastAnnounced uri text traffic ∧ offsetOf text.toList p = .ok (Int.ofNat o) ∧
      CallSite.Calls name (text.toList.drop o)

def AtCalls (traffic : List Sent) (m : Sent) : Prop :=
  m.method = implementationMethod → AtCall traffic m

theorem atCalls_outline (traffic : List Sent) (m : Sent) (h : m.method = outlineMethod) :
    AtCalls traffic m := by
  intro hm
  rw [h] at hm
  exact absurd hm (by decide)

theorem atCall_of_site {target : CallTarget} {text : String} {body : List Char}
    {site : CallSite} (hs : Announced s) (hl : s.texts.lookup target.uri = some text)
    (hr : target.range.Natural) (hb : slice text.toList (some target.range) = .ok body)
    (hsite : site ∈ sitesOf target body) :
    AtCall s.traffic ⟨implementationMethod,
      .object (placeParams (.text target.uri) (placeOf target body site.offset))⟩ := by
  obtain ⟨ho, hc⟩ := CallSite.calls_of_mem_extract hsite
  obtain ⟨before, found, after, hfound, he⟩ := slice_natural text.toList hr
  obtain rfl : body = found := Except.ok.inj (hb.symm.trans hfound)
  have hcut : Cut (body.take site.offset) (body.drop site.offset) := by
    rintro ⟨-, hhead⟩
    exact hc.head_ne hhead
  have hdrop : text.toList.drop (before.length + site.offset) = body.drop site.offset ++ after := by
    rw [he.parts, List.append_assoc, List.drop_length_add_append, List.drop_append_of_le_length ho]
  refine ⟨_, _, text, before.length + site.offset, site.name.toList, rfl, hs _ _ hl, ?_, ?_⟩
  · exact he.offsetOf_place ho hcut
  · rw [hdrop]
    exact hc.append after

theorem within_trace (hw : NaturalOutlines w) (levels : Nat) {target : CallTarget}
    {visited : List Name} (hs : Announced s) (ht : Known s target) :
    Within AtCalls (trace w levels target visited) s := by
  induction levels generalizing target visited s with
  | zero => exact within_pure _ s
  | succ levels ih =>
      rw [trace]
      split
      · exact within_pure _ s
      · obtain ⟨text, hl⟩ := ht.opened
        obtain ⟨before, body, after, hb, -⟩ := slice_natural text.toList ht.natural
        have hread : outcome (readText w target.uri (some target.range)) s =
            (.ok (String.ofList body), s) := by
          rw [outcome_readText_known w hl, hb]
          rfl
        refine (within_of_session (by rw [hread])).bind fun read t hread' => ?_
        obtain ⟨rfl, rfl⟩ : String.ofList body = read ∧ s = t := by simpa [hread] using hread'
        rw [String.toList_ofList]
        -- The document stays known by its text, whatever was traced for the sites before.
        have hsteps (u v : Session σ) (h : Steps AtCalls u v)
            (hu : Announced u ∧ u.texts.lookup target.uri = some text) :
            Announced v ∧ v.texts.lookup target.uri = some text :=
          ⟨h.announced hu.1, h.lookup hu.2⟩
        refine (within_foldlM hsteps (fun site hsite done u hu => ?_) ⟨hs, hl⟩).bind
          fun result v _ => within_pure _ v
        have hcall := atCall_of_site hu.1 hu.2 ht.natural hb hsite
        have hresolve : Within AtCalls (resolve w target (placeOf target body site.offset) site) u :=
          within_resolve w atCalls_outline fun _ => hcall
        refine hresolve.bind fun found v hfound => ?_
        cases found with
        | none => exact within_pure _ v
        | some callee =>
            have hv : Announced v := (hresolve.steps hfound).announced hu.1
            exact (ih hv (resolve_ok w hw hfound)).bind fun result v _ => within_pure _ v

theorem within_traceAt (hw : NaturalOutlines w) (hs : Announced s) (maxDepth : Int)
    (file : String) (p : Position) : Within AtCalls (traceAt w maxDepth file p) s := by
  have hgate : Within AtCalls (require w [implementationCapability, outlineCapability]) s :=
    within_of_session (session_require w _ s)
  refine hgate.bind fun _ t ht => ?_
  refine (within_attempt _ t).bind fun path u hu => ?_
  refine (within_targetFor w atCalls_outline _ u).bind fun found v hv => ?_
  cases found with
  | none =>
      refine (within_attempt _ v).bind fun message v' _ => ?_
      exact (within_note _ _ message v').bind fun _ v' _ => within_pure _ v'
  | some root =>
      obtain ⟨-, rfl⟩ : _ ∧ t = u := by simpa using hu
      have hannounced : Announced v :=
        ((within_targetFor w atCalls_outline _ t).steps hv).announced ((hgate.steps ht).announced hs)
      have hroot : Known v root := targetFor_ok w hw hv
      exact (within_trace w hw _ hannounced hroot).bind fun result v' _ => within_pure _ v'

/-- Whatever the server answers and whether the trace fails or not, it asks
for implementations only where a name is called in a text it announced. -/
theorem traceAt_asks_atCall (hw : NaturalOutlines w) (hs : Reachable s) (maxDepth : Int)
    (file : String) (p : Position) :
    ∃ sent, (outcome (traceAt w maxDepth file p) s).2.traffic = s.traffic ++ sent ∧
      ∀ before m after, sent = before ++ m :: after → m.method = implementationMethod →
        AtCall (s.traffic ++ before) m := by
  have hsteps : Steps AtCalls s (outcome (traceAt w maxDepth file p) s).2 :=
    within_traceAt w hw hs.announced maxDepth file p
  obtain ⟨sent, hsent, hall⟩ := hsteps.permitted
  refine ⟨sent, hsent, fun before m after hm hmethod => ?_⟩
  have hother : m.method ≠ openMethod := by
    rw [hmethod]
    decide
  exact hall before m after hm hother hmethod

/-- One symbol, around all of the first line but selected before it. -/
def firstLine : Json := .object
  [("name", .text "f"), ("kind", .int 12),
    ("range", .object [("end", .object [("line", .int 1)])]),
    ("selectionRange", .object [("end", .object [("character", .int 0)])])]

/-- The same outline for all files, with ` g()` in the first line of each. -/
def oneCall : World Unit :=
  { answering (.list [firstLine]) with
    capabilities := fun _ => .object
      [(implementationCapability, .bool true), (outlineCapability, .bool true)]
    readFile := fun _ _ => (.ok [32, 103, 40, 41, 10], ()) }

theorem naturalOutlines_oneCall : NaturalOutlines oneCall := by
  intro params state reply symbols hreply hsymbols entry hentry
  obtain rfl : .list [firstLine] = reply := Except.ok.inj hreply
  obtain rfl : [⟨.text "f", 12, ⟨.origin, ⟨1, 0⟩⟩, .origin, [], .null⟩] = symbols :=
    Except.ok.inj hsymbols
  obtain rfl : entry = (⟨.text "f", 12, ⟨.origin, ⟨1, 0⟩⟩, .origin, [], .null⟩, []) := by
    simpa [Symbol.walk, Symbol.walkAll, Symbol.walkOne] using hentry
  constructor <;> constructor <;> decide

theorem traceAt_asks_atCall_oneCall : NaturalOutlines oneCall ∧
    ∃ before m after, (outcome (traceAt oneCall 2 "/a" .origin) (.start ())).2.traffic =
      before ++ m :: after ∧ m.method = implementationMethod ∧ AtCall before m := by
  have hw := naturalOutlines_oneCall
  have hs : Reachable (Session.start ()) := ⟨(), .refl⟩
  obtain ⟨sent, hsent, hall⟩ := traceAt_asks_atCall oneCall hw hs 2 "/a" .origin
  have hany : ((outcome (traceAt oneCall 2 "/a" .origin) (.start ())).2.traffic.any
      fun m => m.method == implementationMethod) = true := by decide +kernel
  obtain ⟨m, hm, hmethod⟩ := List.any_eq_true.mp hany
  obtain ⟨before, after, hsplit⟩ := List.append_of_mem hm
  have hmethod : m.method = implementationMethod := by simpa using hmethod
  refine ⟨hw, before, m, after, hsplit, hmethod, ?_⟩
  exact hall before m after (hsent.symm.trans hsplit) hmethod

end CallTrace

end CodeAtlas
