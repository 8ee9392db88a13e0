import CodeAtlas.Proofs.Command.Delivery

namespace CodeAtlas.Command

variable {α : Type} {x : Toolkit} {env env' : Environment} {w w' : Workplace}

/-- The same files at the same place, the same home, and status lines drawn in the same way. -/
structure Workplace.Alike (x : Toolkit) (w w' : Workplace) : Prop where
  cwd : w.cwd = w'.cwd
  disk : w.disk = w'.disk
  home : w.env.lookup "HOME" = w'.env.lookup "HOME"
  line : x.line w.env = x.line w'.env

/-- The same report, and the same files afterwards. -/
def Same (run run' : Report × Workplace) : Prop := run.1 = run'.1 ∧ run.2.disk = run'.2.disk

theorem complaint_congr (h : x.line env = x.line env')
    (status : Int) (tone : Console.Tone) (text : String) :
    Report.complaint x env status tone text = Report.complaint x env' status tone text := by
  rw [Report.complaint, Report.complaint, h]

theorem refusedSettings_congr (h : x.line env = x.line env')
    (e : Failure) : refusedSettings x env e = refusedSettings x env' e := by
  rw [refusedSettings, refusedSettings, complaint_congr h]

theorem failed_congr (h : x.line env = x.line env')
    (e : Failure) (purpose : String) : failed x env e purpose = failed x env' e purpose := by
  simp only [failed, complaint_congr h]

theorem expandHome_congr (h : env.lookup "HOME" = env'.lookup "HOME") (p : Path) :
    p.expandHome env = p.expandHome env' := by
  have hhome (segment : String) : Path.homeOf env segment = Path.homeOf env' segment := by
    unfold Path.homeOf
    rw [h]
  simp only [Path.expandHome, hhome]

theorem visit_congr (b : Wire.Behaviour) (h : w.Alike x w') (s : Settings)
    (work : World Wire.Online → Client Wire.Online α) : visit b w s work = visit b w' s work := by
  have hworld : Wire.Online.world b w.env w.cwd = Wire.Online.world b w'.env w'.cwd := by
    simp only [Wire.Online.world, Path.normalise, expandHome_congr h.home, h.cwd]
  rw [visit, visit, hworld, h.cwd, h.disk]

theorem emit_congr (h : w.Alike x w') (output : Slot Path) (page : Page) :
    Same (emit x w output page) (emit x w' output page) := by
  cases output with
  | absent =>
      unfold emit
      cases page.isEncodable <;> exact ⟨rfl, h.disk⟩
  | blank => exact ⟨rfl, h.disk⟩
  | given path =>
      simp only [Same, emit, h.cwd, h.disk, complaint_congr h.line]
      cases w'.disk.write w'.cwd path (page.bytes?.getD []) with
      | error e => exact ⟨rfl, h.disk⟩
      | ok disk => exact ⟨rfl, rfl⟩

theorem conclude_congr (h : w.Alike x w') (place : Place) (purpose nothing : String)
    (v : Visit (Option α)) (render : α → Except Failure Page) :
    Same (conclude x w place purpose nothing v render)
      (conclude x w' place purpose nothing v render) := by
  unfold conclude
  cases v.result with
  | error e =>
      dsimp only
      rw [failed_congr h.line]
      exact ⟨rfl, h.disk⟩
  | ok found =>
      cases found with
      | none =>
          dsimp only
          rw [complaint_congr h.line]
          exact ⟨rfl, h.disk⟩
      | some a =>
          dsimp only
          cases render a with
          | error e => exact ⟨rfl, h.disk⟩
          | ok page =>
              obtain ⟨hr, hd⟩ := emit_congr h place.output page
              dsimp only
              rw [hr]
              exact ⟨rfl, hd⟩

theorem conduct_congr (b : Wire.Behaviour) (h : w.Alike x w') (place : Place)
    (purpose nothing : String) (work : Prepared → World Wire.Online → Client Wire.Online (Option α))
    (render : α → Except Failure Page) (prepared : Except Report Prepared) :
    Same (conduct x b place purpose nothing work render (prepared, w))
      (conduct x b place purpose nothing work render (prepared, w')) := by
  cases prepared with
  | error report => exact ⟨rfl, h.disk⟩
  | ok p =>
      simp only [conduct, visit_congr b h]
      exact conclude_congr h ..

end CodeAtlas.Command
