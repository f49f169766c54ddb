import Cer.Metadata.Attachment
import Cer.Metadata.Concurrency

/-!
# Threads that write the same row

A run is closed and an artifact attached in place, so threads that do so at the same time
meet in one row.  In every run of threads, SQL call by SQL call, one close of a run is
acknowledged (`closed_once`), and what an acknowledged attachment set stays set, so that
no two disagree (`attachments_stay`).
-/

namespace Cer

open Py Txn Refinement WriteOnce

/-- A valid call is served. -/
def Method.Handled (env : Env) (m : Method) (db : Database) (r : Except Exc Answer) (db' : Database) : Prop :=
  m.Valid ∧ m.Serves env db r db'

/-- The call closed the run. -/
def Closes (runId : String) (x : Method × Except Exc Answer) : Prop :=
  ∃ status endedAt rep, x.1 = .write (.closeRun runId status endedAt) ∧ status ≠ .open_ ∧ x.2 = .ok (.reply rep)

/-- The call attached the artifact. -/
def AttachedBy (artifactId : String) (c : AttachCall) (x : Method × Except Exc Answer) : Prop :=
  ∃ rep, x.1 = .write (.attachArtifact artifactId c.evidenceId c.runId) ∧ x.2 = .ok (.reply rep)

section calls
variable {env : Env} {db db' : Database} {i : String} {x y : Method × Except Exc Answer} {c : AttachCall}

theorem Method.Handled.writes {m : Method} {r : Except Exc Answer} (h : m.Handled env db r db') :
    Writes env db db' :=
  writes_of_later (.single ⟨m, r, h⟩)

/-- A call that was acknowledged went through. -/
theorem Method.Handled.run_ok {m : Method} {w : Write} {rep : Reply} (h : m.Handled env db (.ok (.reply rep)) db')
    (hm : m = .write w) : w.run env db = .ok (rep, db') := by
  obtain ⟨_, hserves⟩ := h
  subst hm
  cases hserves with
  | wrote run => exact run

/-- **A close** finds the run OPEN, and leaves it with its own status. -/
theorem Closes.row (h : x.1.Handled env db x.2 db') (hx : Closes i x) :
    ∃ row ∈ db.runs, row.runId = i ∧ row.status = RunStatus.open_.value ∧
      ∃ row' ∈ db'.runs, row'.runId = i ∧ row'.status ≠ RunStatus.open_.value := by
  obtain ⟨s, t, rep, hcall, hs, hanswer⟩ := hx
  rw [hanswer] at h
  obtain ⟨_, hclose, _⟩ := asReply_ok (h.run_ok hcall)
  obtain ⟨ended, row, _, hf, hopen, rfl, _⟩ := closeRun_ok hclose
  have hid : row.runId = i := by simpa using List.find?_some hf
  refine ⟨row, List.mem_of_find?_eq_some hf, hid, hopen, row.closed s ended,
    List.mem_map.2 ⟨row, List.mem_of_find?_eq_some hf, if_pos (beq_iff_eq.2 hid)⟩, hid, fun hstatus => hs ?_⟩
  have hvalue : s.value = RunStatus.open_.value := hstatus
  cases s with
  | open_ => rfl
  | closed => exact absurd hvalue (by decide)
  | failed => exact absurd hvalue (by decide)

/-- A run that one call closed, no later call does. -/
theorem Closes.not_again {d : Database} (hdb : WellFormed env db) (hx : x.1.Handled env db x.2 db')
    (hy : ∃ d', y.1.Handled env d y.2 d') (hlater : Writes env db' d) : ¬ (Closes i x ∧ Closes i y) := by
  rintro ⟨hclosed, hagain⟩
  obtain ⟨d', hy⟩ := hy
  have hdb' := hx.writes.wellFormed hdb
  obtain ⟨_, _, _, _, row, hrow, hid, hstatus⟩ := hclosed.row hx
  obtain ⟨row', hrow', hid', hopen, _⟩ := hagain.row hy
  obtain ⟨row₁, hrow₁, hc, hsame | hwas⟩ := (hlater.extends hdb').runs.mem hrow
  · obtain rfl : row₁ = row' := (hlater.wellFormed hdb').runs.distinct.eq_of_ident hrow₁ hrow' (by
      rw [hsame]
      exact hid.trans hid'.symm)
    rw [hsame] at hopen
    exact hstatus hopen
  · exact hstatus hwas

/-- The links that the row has are kept. -/
theorem slots_attaches {row row' : ArtifactRow} (h : row.Attaches row') {f : LinkField} {v : String}
    (hv : row.slots f = some v) : row'.slots f = some v := by
  obtain ⟨_, hrun, hevidence⟩ := h
  cases f with
  | evidence =>
    have hv' : row.evidenceId = some v := hv
    rcases hevidence with h | h
    · exact h.trans hv'
    · rw [h] at hv'
      cases hv'
  | run =>
    have hv' : row.runId = some v := hv
    rcases hrun with h | h
    · exact h.trans hv'
    · rw [h] at hv'
      cases hv'

/-- **An attachment** leaves a row with the links that it names. -/
theorem AttachedBy.row (hdb : WellFormed env db) (h : x.1.Handled env db x.2 db') (hx : AttachedBy i c x) :
    ∃ row ∈ db'.artifacts, row.artifactId = i ∧ ∀ f v, c.slots f = some v → row.slots f = some v := by
  obtain ⟨rep, hcall, hanswer⟩ := hx
  rw [hanswer] at h
  obtain ⟨a, hattach, _⟩ := asReply_ok (h.run_ok hcall)
  cases hdb.attach_cases i c with
  | set row a' hmem hid _ agree result _ =>
    rw [hattach] at result
    obtain rfl : db' = _ := (Prod.mk.inj (Except.ok.inj result)).2
    subst hid
    refine ⟨_, Database.mem_withLinks hmem (assign row.slots c.slots), rfl, fun f v hv => ?_⟩
    rw [ArtifactRow.slots_linked]
    exact assign_of_agree agree hv
  | missing m result _ =>
    rw [hattach] at result
    cases result
  | relink row m _ _ _ _ result =>
    rw [hattach] at result
    cases result

end calls

section runs
variable {env : Env} {T : Type} [DecidableEq T] {dbPath : String} {db : Database}
  {shown : List (Event T Method (Except Exc Answer))} {σ : Connections.State T Method Database Exc Answer}

/-- **A run of threads** is one in which each call is served at one moment. -/
theorem thread_runs (h : Runs (Connections.machine (storeProgram env dbPath)) (Connections.State.start db) shown σ)
    (valid : ∀ c m, .call c m ∈ shown → m.Valid) :
    Runs (service (Method.Handled env)) ⟨db, fun _ => .idle⟩ shown σ.view := by
  obtain ⟨hruns, _⟩ := Connections.machine_refines (storeProgram env dbPath) h
  exact service_restrict valid (fun t op h => by cases h)
    (service_mono (fun _ _ _ _ => Method.serves_of_program) hruns)

end runs

/-- **One close of a run is acknowledged**, however many threads try. -/
theorem closed_once (env : Env) {T : Type} [DecidableEq T] (dbPath : String) {db : Database}
    (reached : Reachable env db)
    {shown : List (Event T Method (Except Exc Answer))} {σ : Connections.State T Method Database Exc Answer}
    (h : Runs (Connections.machine (storeProgram env dbPath)) (Connections.State.start db) shown σ)
    (valid : ∀ c m, .call c m ∈ shown → m.Valid) (runId : String) :
    (results (paired shown)).Pairwise fun x y => ¬ (Closes runId x ∧ Closes runId y) := by
  refine (service_told_in_turn (thread_runs h valid)).imp fun {x y} hturn => ?_
  have hordered : ∀ {x y : Method × Except Exc Answer} {d₁ d' : Database},
    Answered (Method.Handled env) db x.1 x.2 d₁ →
      Answered (Method.Handled env) d₁ y.1 y.2 d' → ¬ (Closes runId x ∧ Closes runId y) := by
    rintro x y d₁ d' ⟨e₁, e₂, h₁, hx, h₂⟩ ⟨e₃, e₄, h₃, hy, _⟩
    exact Closes.not_again ((writes_of_later h₁).wellFormed reached.wellFormed) hx ⟨e₄, hy⟩
      ((writes_of_later h₂).trans (writes_of_later h₃))
  rcases hturn with ⟨d₁, hx, hy⟩ | ⟨d₁, hy, hx⟩
  · exact hordered hx hy
  · exact fun hboth => hordered hy hx hboth.symm

/-- **Attachments stay**: the links that an acknowledged attachment names are those of the
artifact's row in the end, so no two acknowledged attachments of an artifact disagree. -/
theorem attachments_stay (env : Env) {T : Type} [DecidableEq T] (dbPath : String) {db : Database}
    (reached : Reachable env db) {shown : List (Event T Method (Except Exc Answer))}
    {σ : Connections.State T Method Database Exc Answer}
    (h : Runs (Connections.machine (storeProgram env dbPath)) (Connections.State.start db) shown σ)
    (valid : ∀ c m, .call c m ∈ shown → m.Valid) {x : Method × Except Exc Answer}
    (told : x ∈ results (paired shown))
    {artifactId : String} {c : AttachCall} (attached : AttachedBy artifactId c x) :
    (∃ row ∈ σ.committed.artifacts, row.artifactId = artifactId ∧ ∀ f v, c.slots f = some v →
      row.slots f = some v) ∧
    ∀ y ∈ results (paired shown), ∀ c', AttachedBy artifactId c' y → WriteOnce.Agree c.slots c'.slots := by
  have hruns := thread_runs h valid
  have hstays : ∀ y ∈ results (paired shown), ∀ c', AttachedBy artifactId c' y → WellFormed env σ.committed ∧
      ∃ row ∈ σ.committed.artifacts, row.artifactId = artifactId ∧ ∀ f v, c'.slots f = some v →
      row.slots f = some v := by
    intro y hy c' hattached
    obtain ⟨d₁, d₂, h₁, hserved, h₂⟩ := service_told hruns hy
    have hdb := (writes_of_later h₁).wellFormed reached.wellFormed
    have hdb' := hserved.writes.wellFormed hdb
    obtain ⟨row, hrow, hid, hslots⟩ := hattached.row hdb hserved
    have hwrites : Writes env d₂ σ.committed := writes_of_later h₂
    obtain ⟨row', hrow', hattaches⟩ := (hwrites.extends hdb').artifacts.mem hrow
    refine ⟨hwrites.wellFormed hdb', row', hrow', ?_, fun f v hv => slots_attaches hattaches (hslots f v hv)⟩
    rw [hattaches.1]
    exact hid
  obtain ⟨hdb, row, hrow, hid, hslots⟩ := hstays x told c attached
  refine ⟨⟨row, hrow, hid, hslots⟩, fun y hy c' hattached f v v' hv hv' => ?_⟩
  obtain ⟨_, row', hrow', hid', hslots'⟩ := hstays y hy c' hattached
  obtain rfl : row = row' := hdb.artifacts.distinct.eq_of_ident hrow hrow' (hid.trans hid'.symm)
  exact Option.some.inj ((hslots f v hv).symm.trans (hslots' f v' hv'))

/-! ## Two threads -/

/-- The artifact is attached to the run it was registered with. -/
theorem sampleLinked_attach : ∃ a l,
    (Write.attachArtifact "art_01" none (some "run_01")).run .reference sampleLinked =
    .ok (.artifact a, sampleLinked.withLinks "art_01" l) := by
  cases sampleLinked_reachable.wellFormed.attach_cases "art_01" ⟨none, some "run_01"⟩ with
  | set row a _ _ _ _ result _ =>
    refine ⟨a, assign row.slots (⟨none, some "run_01"⟩ : AttachCall).slots, ?_⟩
    show asReply .artifact (attachArtifact sampleLinked "art_01" none (some "run_01")) = _
    rw [result]
    rfl
  | missing m _ why =>
    rcases why with hall | hnot
    · exact absurd rfl (hall _ (List.mem_singleton_self _))
    · refine absurd ⟨fun e he => ?_, fun r hr => ?_⟩ hnot
      · cases he
      · obtain rfl := Option.some.inj hr
        exact ⟨_, List.mem_cons_self, rfl⟩
  | relink row m hmem _ _ conflict _ =>
    obtain rfl := List.mem_singleton.1 hmem
    refine absurd (fun f v w hv hw => ?_) conflict
    cases f with
    | evidence => cases hv
    | run => exact Option.some.inj (hv.symm.trans hw)

def closingTime : AwareTime := ⟨sampleTime, some 0⟩

def attachThenClose (a : ArtifactRecord) (x : Run) : List (Event Bool Method (Except Exc Answer)) :=
  [.call true (.write (.attachArtifact "art_01" none (some "run_01"))), .ret true (.ok (.reply (.artifact a))),
    .call false (.write (.closeRun "run_01" .closed closingTime)), .ret false (.ok (.reply (.run x)))]

theorem attachThenClose_runs : ∃ (a : ArtifactRecord) (x : Run)
    (σ : Connections.State Bool Method Database Exc Answer),
    Runs (Connections.machine (storeProgram .reference "cer.db")) (Connections.State.start sampleLinked)
      (attachThenClose a x) σ := by
  obtain ⟨a, l, hattach⟩ := sampleLinked_attach
  have hdb : WellFormed .reference (sampleLinked.withLinks "art_01" l) :=
    Writes.wellFormed sampleLinked_reachable.wellFormed
      (.commit (w := .attachArtifact "art_01" none (some "run_01")) (.refl _) trivial
      hattach)
  have hended : toUtc closingTime = .ok sampleTime := rfl
  have hrow : (sampleLinked.withLinks "art_01" l).runs.find? (·.runId == "run_01") =
    some (sampleRun.toRow .reference none) := rfl
  obtain ⟨x, _, hclose⟩ := hdb.closeRun_open (s := .closed) hended hrow rfl
  obtain ⟨σ₁, hfirst, hdata, hpresent, hphase⟩ := Write.commits_runs (t := true) (τ := (Connections.State.start
    sampleLinked).to true (.asked (.write (.attachArtifact "art_01" none (some "run_01"))))) rfl rfl rfl
    (fun u _ => by cases u <;> exact fun h => h) hattach
  have hidle : ∀ u, σ₁.phase u = .idle := by
    intro u
    rw [hphase]
    cases u <;> rfl
  rw [← hdata] at hclose
  have hrun := congrArg (asReply Reply.run) hclose
  obtain ⟨σ₂, hsecond, _⟩ := Write.commits_runs (t := false) (τ := σ₁.to false (.asked (.write
    (.closeRun "run_01" .closed closingTime)))) rfl Connections.State.to_phase_self hpresent
    (fun u hu => by
      rw [Connections.State.to_phase_ne hu, hidle]
      exact fun h => h) hrun
  refine ⟨a, x, σ₂, ?_⟩
  have hcall := Runs.one (Connections.machine.call (P := storeProgram .reference "cer.db") (Connections.State.start
    sampleLinked) true (.write (.attachArtifact "art_01" none (some "run_01"))) rfl)
  exact (hcall.trans hfirst).trans ((Runs.one (Connections.machine.call σ₁ false (.write
    (.closeRun "run_01" .closed closingTime)) (hidle false))).trans hsecond)

theorem attachThenClose_valid {a : ArtifactRecord} {x : Run} {c : Bool} {m : Method}
    (h : .call c m ∈ attachThenClose a x) : m.Valid := by
  simp only [attachThenClose, List.mem_cons, List.not_mem_nil, or_false, Event.call.injEq,
    reduceCtorEq, false_or] at h
  rcases h with ⟨_, rfl⟩ | ⟨_, rfl⟩ <;> trivial

theorem attachThenClose_stays : ∃ σ : Connections.State Bool Method Database Exc Answer,
    ∃ row ∈ σ.committed.artifacts,
    row.artifactId = "art_01" ∧ row.slots .run = some "run_01" := by
  obtain ⟨a, x, σ, h⟩ := attachThenClose_runs
  obtain ⟨row, hrow, hid, hslots⟩ := (attachments_stay .reference "cer.db" sampleLinked_reachable h
    (fun _ _ hm => attachThenClose_valid hm) (x := (.write (.attachArtifact "art_01" none (some "run_01")),
      .ok (.reply (.artifact a)))) List.mem_cons_self (c := ⟨none, some "run_01"⟩) ⟨_, rfl, rfl⟩).1
  exact ⟨σ, row, hrow, hid, hslots .run "run_01" rfl⟩

/-- Two threads close one run at the same time: one as CLOSED, the other, which is served later, as FAILED. -/
def closedTwice (x : Run) (e : Exc) : List (Event Bool Method (Except Exc Answer)) :=
  [.call true (.write (.closeRun "run_01" .closed closingTime)),
    .call false (.write (.closeRun "run_01" .failed closingTime)),
    .ret true (.ok (.reply (.run x))), .ret false (.error e)]

theorem closedTwice_runs : ∃ (x : Run) (m : String) (σ : Connections.State Bool Method Database Exc Answer),
    Runs (Connections.machine (storeProgram .reference "cer.db")) (Connections.State.start sampleLinked)
      (closedTwice x (immutability m)) σ := by
  have hended : toUtc closingTime = .ok sampleTime := rfl
  have hrow : sampleLinked.runs.find? (·.runId == "run_01") = some (sampleRun.toRow .reference none) := rfl
  obtain ⟨x, _, hclose⟩ := sampleLinked_reachable.wellFormed.closeRun_open (s := .closed) hended hrow rfl
  have hrun : (Write.closeRun "run_01" .closed closingTime).run .reference sampleLinked = .ok (.run x, _) :=
    congrArg (asReply Reply.run) hclose
  -- both call, and the first goes through
  obtain ⟨σ₁, hfirst, hdata, hpresent, hphase⟩ :=
    Write.commits_runs (t := true) (w := .closeRun "run_01" .closed closingTime)
    (τ := ((Connections.State.start sampleLinked).to true
      (.asked (.write (.closeRun "run_01" .closed closingTime)))).to
      false (.asked (.write (.closeRun "run_01" .failed closingTime)))) rfl
    ((Connections.State.to_phase_ne (by decide)).trans Connections.State.to_phase_self) rfl
    (fun u _ => by cases u <;> exact fun h => h) hrun
  -- the second finds the run closed
  have hagain : ∃ m, (Write.closeRun "run_01" .failed closingTime).run .reference σ₁.committed =
      .error (immutability m) := by
    rw [hdata]
    exact ⟨_, rfl⟩
  obtain ⟨m, hagain⟩ := hagain
  obtain ⟨σ₂, hsecond, _⟩ := Write.refuses_runs (t := false) (τ := σ₁) rfl
    (by rw [hphase]; rfl) hpresent (fun u hu => by rw [hphase]; cases u <;> exact fun h => h) hagain
  have hcalls := Runs.shows (Runs.one (Connections.machine.call (P := storeProgram .reference "cer.db")
    (Connections.State.start sampleLinked) true (.write (.closeRun "run_01" .closed closingTime)) rfl))
    (Connections.machine.call _ false (.write (.closeRun "run_01" .failed closingTime)) rfl)
  exact ⟨x, m, σ₂, (hcalls.trans hfirst).trans hsecond⟩

/-- One of the two is acknowledged, the other refused. -/
theorem closedTwice_closes_once : ∃ (x : Run) (m : String) (σ : Connections.State Bool Method Database Exc Answer),
    Runs (Connections.machine (storeProgram .reference "cer.db")) (Connections.State.start sampleLinked)
      (closedTwice x (immutability m)) σ ∧
    (results (paired (closedTwice x (immutability m)))).Pairwise
      fun x y => ¬ (Closes "run_01" x ∧ Closes "run_01" y) := by
  obtain ⟨x, m, σ, h⟩ := closedTwice_runs
  refine ⟨x, m, σ, h, closed_once .reference "cer.db" sampleLinked_reachable h (fun c m hm => ?_) "run_01"⟩
  simp only [closedTwice, List.mem_cons, List.not_mem_nil, or_false, Event.call.injEq, reduceCtorEq] at hm
  rcases hm with ⟨_, rfl⟩ | ⟨_, rfl⟩ <;> trivial

end Cer
