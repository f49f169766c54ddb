import Cer.Metadata.ReadBack

/-!
# Listings that grow while they are read

A client pages through a query while others go on writing.  `listings_grow`: what a query
has listed it goes on listing, in the same order; `paging_misses_nothing`: so that pages
asked for one after the other, each of whatever database there is by then, show everything
that was listed at the start.
-/

namespace Cer

open Py Paging

/-! ## A listing and the later ones -/

section lists
variable {Row Rec : Type}

/-- The query returns the pages of what is `Listed`, newest first, and what is listed stays so: in a
later database there is a record in its place, which is it `Since`. -/
structure Lists (env : Env) (query : Database → Int → Int → Except Exc (List Rec))
    (order : Rec → DateTime × String)
    (Listed : Database → Rec → Prop) (Since : Rec → Rec → Prop) : Prop where
  pages : ∀ db, Reachable env db → ∃ listing, (∀ x, x ∈ listing ↔ Listed db x) ∧
    (listing.Pairwise fun x y => place order y < place order x) ∧ Pages (query db) listing
  keeps : ∀ db db', Reachable env db → Writes env db db' → ∀ x, Listed db x →
    ∃ y, Listed db' y ∧ place order y = place order x ∧ Since x y

/-- The later listing has the earlier one in it, in the same order. -/
def Grown (query query' : Int → Int → Except Exc (List Rec)) (order : Rec → DateTime × String)
    (Since : Rec → Rec → Prop) : Prop :=
  ∃ listing listing', Pages query listing ∧ Pages query' listing' ∧
    (listing.map (place order)).Sublist (listing'.map (place order)) ∧
      ∀ x ∈ listing, ∃ y ∈ listing', place order y = place order x ∧ Since x y

/-- Page `j` of `n` records is asked of `dbs j`, up to the first that is not full. -/
structure Paged (query : Database → Int → Int → Except Exc (List Rec)) (dbs : Nat → Database) (n m : Nat)
    (pages : Nat → List Rec) : Prop where
  asked : ∀ j ≤ m, query (dbs j) n (n * j : Nat) = .ok (pages j)
  short : (pages m).length < n

/-- Whatever is written in between, everything listed at the start is on one of the pages. -/
def MissesNothing (env : Env) (query : Database → Int → Int → Except Exc (List Rec))
    (Listed : Database → Rec → Prop)
    (Since : Rec → Rec → Prop) : Prop :=
  ∀ dbs : Nat → Database, Reachable env (dbs 0) → (∀ j, Writes env (dbs j) (dbs (j + 1))) →
    ∀ n m pages, 1 ≤ n → n * (m + 1) < 2 ^ 63 → Paged query dbs n m pages →
      ∀ x, Listed (dbs 0) x → ∃ j ≤ m, ∃ y ∈ pages j, Since x y

variable {env : Env} {query : Database → Int → Int → Except Exc (List Rec)} {order : Rec → DateTime × String}
  {Listed : Database → Rec → Prop} {Since : Rec → Rec → Prop}

theorem Lists.grown (h : Lists env query order Listed Since) {db db' : Database} (reached : Reachable env db)
    (later : Writes env db db') : Grown (query db) (query db') order Since := by
  obtain ⟨listing, hmem, hsorted, hpages⟩ := h.pages db reached
  obtain ⟨listing', hmem', hsorted', hpages'⟩ := h.pages db' (reached.trans later)
  have hkeeps : ∀ x ∈ listing, ∃ y ∈ listing', place order y = place order x ∧ Since x y := by
    intro x hx
    obtain ⟨y, hy, he, hsince⟩ := h.keeps db db' reached later x ((hmem x).1 hx)
    exact ⟨y, (hmem' y).2 hy, he, hsince⟩
  refine ⟨listing, listing', hpages, hpages', sublist_of_keys hsorted hsorted' fun x hx => ?_, hkeeps⟩
  obtain ⟨y, hy, he, _⟩ := hkeeps x hx
  exact ⟨y, hy, he⟩

theorem Lists.misses_nothing (h : Lists env query order Listed Since) : MissesNothing env query Listed Since := by
  intro dbs reached later n m pages hn hnm hpaged x hx
  have hlater : ∀ j, Writes env (dbs 0) (dbs j) := by
    intro j
    induction j with
    | zero => exact .refl _
    | succ j ih => exact ih.trans (later j)
  have hreached : ∀ j, Reachable env (dbs j) := fun j => reached.trans (hlater j)
  choose listing hmem hsorted hpages using fun j => h.pages (dbs j) (hreached j)
  have hgrowing : Growing (place order) listing := by
    refine ⟨hsorted, fun j a ha => ?_⟩
    obtain ⟨b, hb, he, _⟩ := h.keeps _ _ (hreached j) (later j) a ((hmem j a).1 ha)
    exact ⟨b, (hmem (j + 1) b).2 hb, he⟩
  have hpage : ∀ j ≤ m, pages j = ((listing j).drop (n * j)).take n := by
    intro j hj
    have hle : n * (j + 1) ≤ n * (m + 1) := Nat.mul_le_mul_left n (Nat.succ_le_succ hj)
    rw [Nat.mul_succ] at hle
    have hq := (hpages j).page n (n * j : Nat) (by omega) (by omega) (by omega) (by omega)
    exact Except.ok.inj ((hpaged.asked j hj).symm.trans hq)
  have hshort := hpaged.short
  rw [hpage m (Nat.le_refl m)] at hshort
  obtain ⟨j, hj, y, hy, hplace⟩ := hgrowing.seen ((hmem 0 x).2 hx) hshort
  refine ⟨j, hj, y, by rw [hpage j hj]; exact hy, ?_⟩
  -- the record in its place is the one it has become
  obtain ⟨z, hz, hzx, hsince⟩ := h.keeps _ _ reached (hlater j) x hx
  have hyj : y ∈ listing j := List.mem_of_mem_drop (List.mem_of_mem_take hy)
  have hzy : z = y := eq_of_key (hsorted j) ((hmem j z).2 hz) hyj (hzx.trans hplace.symm)
  rw [← hzy]
  exact hsince

/-- A table whose rows never change goes on listing its records. -/
theorem Lists.of_rows {rows : Database → List Row} {read : Row → Except Exc Rec} {Matches : Rec → Prop}
    (hpages : ∀ db, Reachable env db → ∃ listing, History (rows db) read Matches order listing ∧
      Pages (query db) listing)
    (hrows : ∀ {db db' : Database}, db.Extends db' → ∀ r ∈ rows db, r ∈ rows db') :
    Lists env query order (fun db x => (∃ r ∈ rows db, read r = .ok x) ∧ Matches x) Eq := by
  constructor
  · intro db hdb
    obtain ⟨listing, hhistory, hp⟩ := hpages db hdb
    exact ⟨listing, hhistory.mem, hhistory.sorted, hp⟩
  · rintro db db' hdb hw x ⟨⟨r, hr, hread⟩, hx⟩
    exact ⟨x, ⟨⟨r, hrows (hw.extends hdb.wellFormed) r hr, hread⟩, hx⟩, rfl, rfl⟩

theorem mem_of_extends {rows rows' : List Row} (h : Ledger.Extends Eq rows rows') : ∀ r ∈ rows, r ∈ rows' := by
  intro r hr
  obtain ⟨r', hr', rfl⟩ := h.mem hr
  exact hr'

end lists

/-! ## The four queries -/

/-- The same registration, attached meanwhile where it was not. -/
def ArtifactRecord.Attaches (a b : ArtifactRecord) : Prop :=
  b = { a with runId := b.runId, evidenceId := b.evidenceId } ∧ (b.runId = a.runId ∨ a.runId = none) ∧
    (b.evidenceId = a.evidenceId ∨ a.evidenceId = none)

section queries
variable {env : Env}

theorem lists_evidence {q : EvidenceQuery} (hq : q.InRange) : Lists env (fun db => queryEvidence env db q)
    EvidenceRecord.order (fun db x => (∃ r ∈ db.evidence, rowToEvidence env r = .ok x) ∧ q.Matches x) Eq :=
  .of_rows (fun _ hdb => hdb.wellFormed.queryEvidence_pages hq) fun h => mem_of_extends h.evidence

theorem lists_promotions (strategyId strategyVersion : Option String) :
    Lists env (fun db => queryPromotions env db strategyId strategyVersion) PromotionTransition.order
      (fun db x => (∃ r ∈ db.promotions, rowToPromotion env r = .ok x) ∧
        StrategyMatches strategyId strategyVersion x.strategyId x.strategyVersion) Eq :=
  .of_rows (fun _ hdb => hdb.wellFormed.queryPromotions_pages strategyId strategyVersion)
    fun h => mem_of_extends h.promotions

theorem lists_health (strategyId strategyVersion : Option String) :
    Lists env (fun db => queryHealth env db strategyId strategyVersion) StrategyHealthRecord.order
      (fun db x => (∃ r ∈ db.healthRecords, rowToHealth env r = .ok x) ∧
        StrategyMatches strategyId strategyVersion x.strategyId x.strategyVersion) Eq :=
  .of_rows (fun _ hdb => hdb.wellFormed.queryHealth_pages strategyId strategyVersion)
    fun h => mem_of_extends h.healthRecords

/-- What is read of a row that was attached. -/
theorem reads_attached {db db' : Database} (h : WellFormed env db) (h' : WellFormed env db') {r r' : ArtifactRow}
    (hr : r ∈ db.artifacts) (hr' : r' ∈ db'.artifacts) (ha : r.Attaches r') {a : ArtifactRecord}
    (hread : rowToArtifact r = .ok a) : ∃ b, rowToArtifact r' = .ok b ∧ a.Attaches b := by
  obtain ⟨x, k, p, hvalid, rfl, hx⟩ := (h.artifacts.origin r hr).read
  obtain ⟨y, k', p', _, hy', hy⟩ := (h'.artifacts.origin r' hr').read
  obtain rfl : x = a := Except.ok.inj (hx.symm.trans hread)
  have hsame : { y with runId := x.runId, evidenceId := x.evidenceId } = x := read_attached hvalid ha hy
  obtain ⟨_, hrun, hevidence⟩ := ha
  rw [hy'] at hrun hevidence
  refine ⟨y, hy, ?_, hrun, hevidence⟩
  rw [← hsame]

theorem lists_artifacts (evidenceId runId : Option String) :
    Lists env (fun db => queryArtifacts db evidenceId runId) ArtifactRecord.order
      (fun db x => (∃ r ∈ db.artifacts, rowToArtifact r = .ok x) ∧ x.Matches evidenceId runId)
      ArtifactRecord.Attaches := by
  constructor
  · intro db hdb
    obtain ⟨listing, hhistory, hp⟩ := hdb.wellFormed.queryArtifacts_pages evidenceId runId
    exact ⟨listing, hhistory.mem, hhistory.sorted, hp⟩
  · rintro db db' hdb hw x ⟨⟨r, hr, hread⟩, he, hrun⟩
    obtain ⟨r', hr', hattaches⟩ := (hw.extends hdb.wellFormed).artifacts.mem hr
    obtain ⟨y, hy, hsame, hrun', he'⟩ :=
      reads_attached hdb.wellFormed (hw.wellFormed hdb.wellFormed) hr hr' hattaches hread
    -- a filter it passes names a link that it has, and links stay
    have hstays : ∀ {filter old new : Option String}, (new = old ∨ old = none) →
      Given filter old → Given filter new := by
      intro filter old new hnew hgiven v hv
      have hold := hgiven v hv
      rcases hnew with rfl | hnone
      · exact hold
      · rw [hnone] at hold
        cases hold
    refine ⟨y, ⟨⟨r', hr', hy⟩, hstays he' he, hstays hrun' hrun⟩, ?_, hsame, hrun', he'⟩
    rw [hsame]
    rfl

end queries

/-- **Listings only grow**: in every later database a query lists what it listed, in the same order;
an artifact may have been attached meanwhile, the other records are as they were. -/
theorem listings_grow {env : Env} {db db' : Database} (reached : Reachable env db) (later : Writes env db db') :
    (∀ q : EvidenceQuery, q.InRange →
      Grown (queryEvidence env db q) (queryEvidence env db' q) EvidenceRecord.order Eq) ∧
    (∀ evidenceId runId, Grown (queryArtifacts db evidenceId runId) (queryArtifacts db' evidenceId runId)
      ArtifactRecord.order ArtifactRecord.Attaches) ∧
    (∀ strategyId strategyVersion, Grown (queryPromotions env db strategyId strategyVersion)
      (queryPromotions env db' strategyId strategyVersion) PromotionTransition.order Eq) ∧
    ∀ strategyId strategyVersion, Grown (queryHealth env db strategyId strategyVersion)
      (queryHealth env db' strategyId strategyVersion) StrategyHealthRecord.order Eq :=
  ⟨fun _ hq => (lists_evidence hq).grown reached later, fun e r => (lists_artifacts e r).grown reached later,
    fun s v => (lists_promotions s v).grown reached later, fun s v => (lists_health s v).grown reached later⟩

/-- The listing of one promotion grows by the two recorded after it. -/
theorem samplePromoted_grows : Grown (queryPromotions .reference samplePromoted (some "strat_01") none)
    (queryPromotions .reference sampleThird (some "strat_01") none) PromotionTransition.order Eq := by
  have hlater : Writes .reference samplePromoted sampleThird :=
    .commit (w := .recordPromotion samplePromotionThird none)
      (.commit (w := .recordPromotion samplePromotionSecond none) (.refl _) samplePromotionSecond_valid
        sampleSecond_record)
      samplePromotionThird_valid sampleThird_record
  exact (listings_grow samplePromoted_reachable hlater).2.2.1 (some "strat_01") none

/-- **Paging misses nothing**: a client that asks for one page after the other, up to the first that
is not full, sees every record that its query listed when it began, whatever others write in
between. -/
theorem paging_misses_nothing (env : Env) :
    (∀ q : EvidenceQuery, q.InRange → MissesNothing env (fun db => queryEvidence env db q)
      (fun db x => (∃ r ∈ db.evidence, rowToEvidence env r = .ok x) ∧ q.Matches x) Eq) ∧
    (∀ evidenceId runId, MissesNothing env (fun db => queryArtifacts db evidenceId runId)
      (fun db x => (∃ r ∈ db.artifacts, rowToArtifact r = .ok x) ∧ x.Matches evidenceId runId)
      ArtifactRecord.Attaches) ∧
    (∀ strategyId strategyVersion, MissesNothing env (fun db => queryPromotions env db strategyId strategyVersion)
      (fun db x => (∃ r ∈ db.promotions, rowToPromotion env r = .ok x) ∧
        StrategyMatches strategyId strategyVersion x.strategyId x.strategyVersion) Eq) ∧
    ∀ strategyId strategyVersion, MissesNothing env (fun db => queryHealth env db strategyId strategyVersion)
      (fun db x => (∃ r ∈ db.healthRecords, rowToHealth env r = .ok x) ∧
        StrategyMatches strategyId strategyVersion x.strategyId x.strategyVersion) Eq :=
  ⟨fun _ hq => (lists_evidence hq).misses_nothing, fun e r => (lists_artifacts e r).misses_nothing,
    fun s v => (lists_promotions s v).misses_nothing, fun s v => (lists_health s v).misses_nothing⟩

/-- Pages of one promotion each; the third promotion is recorded after the first page. -/
def meanwhile : Nat → Database
  | 0 => sampleSecond
  | _ + 1 => sampleThird

def meanwhilePages : Nat → List PromotionTransition
  | 0 => [samplePromotionSecond]
  | 1 => [samplePromotionSecond]
  | 2 => [samplePromotion]
  | _ => []

/-- What was listed at first is on the pages, though the third promotion has shifted them. -/
theorem meanwhile_misses_nothing : ∃ j ≤ 3, ∃ y ∈ meanwhilePages j, samplePromotion = y := by
  have hlater : ∀ j, Writes .reference (meanwhile j) (meanwhile (j + 1)) := by
    intro j
    cases j with
    | zero =>
      exact .commit (w := .recordPromotion samplePromotionThird none) (.refl _) samplePromotionThird_valid
        sampleThird_record
    | succ j => exact .refl _
  have hsecond : Pages (queryPromotions .reference sampleSecond (some "strat_01") none)
      [samplePromotionSecond, samplePromotion] := by
    obtain ⟨listing, hhistory, hpages⟩ :=
      sampleSecond_reachable.wellFormed.queryPromotions_pages (some "strat_01") none
    rw [hhistory.eq sampleSecond_history] at hpages
    exact hpages
  have hthird : Pages (queryPromotions .reference sampleThird (some "strat_01") none)
      [samplePromotionThird, samplePromotionSecond, samplePromotion] := by
    obtain ⟨listing, hhistory, hpages⟩ :=
      sampleThird_reachable.wellFormed.queryPromotions_pages (some "strat_01") none
    rw [hhistory.eq sampleThird_history] at hpages
    exact hpages
  have hpaged : Paged (fun db => queryPromotions .reference db (some "strat_01") none) meanwhile 1 3
      meanwhilePages := by
    refine ⟨fun j hj => ?_, by decide⟩
    match j, hj with
    | 0, _ => exact hsecond.page 1 0 (by decide) (by decide) (by decide) (by decide)
    | 1, _ => exact hthird.page 1 1 (by decide) (by decide) (by decide) (by decide)
    | 2, _ => exact hthird.page 1 2 (by decide) (by decide) (by decide) (by decide)
    | 3, _ => exact hthird.page 1 3 (by decide) (by decide) (by decide) (by decide)
  have hlisted := (sampleSecond_history.mem samplePromotion).1 (by simp)
  exact (paging_misses_nothing .reference).2.2.1 (some "strat_01") none meanwhile sampleSecond_reachable hlater 1 3
    meanwhilePages (by decide) (by decide) hpaged samplePromotion hlisted

end Cer
