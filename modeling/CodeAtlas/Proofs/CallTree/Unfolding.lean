import CodeAtlas.Proofs.CallTree.Calls

namespace CodeAtlas.CallTree

variable {calls : Name → List Name} {t u : CallTree}

/-- Below each name stand the names that it calls, in their order. -/
inductive Unfolds (calls : Name → List Name) : CallTree → Prop
  | node {name : Name} {children : List CallTree}
      (hn : children.map CallTree.name = calls name) (hc : ∀ t ∈ children, Unfolds calls t) :
      Unfolds calls (.node name children)

theorem Unfolds.parts {name : Name} {children : List CallTree}
    (h : Unfolds calls (.node name children)) :
    children.map CallTree.name = calls name ∧ ∀ t ∈ children, Unfolds calls t := by
  cases h with
  | node hn hc => exact ⟨hn, hc⟩

theorem eq_of_map_name_eq {ts us : List CallTree} (h : ts.map name = us.map name)
    (he : ∀ t ∈ ts, ∀ u ∈ us, t.name = u.name → t = u) : ts = us := by
  induction ts generalizing us with
  | nil => exact (List.map_eq_nil_iff.mp h.symm).symm
  | cons t rest ih =>
      obtain ⟨u, others, rfl, hname, hrest⟩ := List.map_eq_cons_iff.mp h.symm
      obtain rfl : t = u := he t List.mem_cons_self u List.mem_cons_self hname.symm
      rw [ih hrest.symm fun t ht u hu =>
        he t (List.mem_cons_of_mem _ ht) u (List.mem_cons_of_mem _ hu)]

theorem Unfolds.unique (ht : Unfolds calls t) (hu : Unfolds calls u) (h : t.name = u.name) :
    t = u := by
  induction ht generalizing u with
  | @node name children hn _ ih =>
      cases hu with
      | @node name' children' hn' hc' =>
          obtain rfl : name = name' := h
          rw [eq_of_map_name_eq (hn.trans hn'.symm) fun t ht u hu => ih t ht (hc' u hu)]

theorem depth_lt_depthBelow {ts : List CallTree} (h : t ∈ ts) : t.depth < depthBelow ts := by
  induction ts with
  | nil => cases h
  | cons first rest ih =>
      rw [depthBelow]
      obtain rfl | h := List.mem_cons.mp h
      · omega
      · have hrest := ih h
        omega

theorem calls_eq_nil_of_depth (h : t.depth = 0) : t.calls = [] := by
  obtain ⟨name, _ | ⟨first, rest⟩⟩ := t
  · rfl
  · have hdeep : first.depth < depthBelow (first :: rest) := depth_lt_depthBelow List.mem_cons_self
    rw [depth] at h
    omega

end CodeAtlas.CallTree
