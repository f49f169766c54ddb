import Cer.Lib.Calendar
import Cer.Lib.Paging
import Cer.Lib.Utf8Order
import Cer.Metadata.ReplayPaths

/-!
# Queries

The four `query_*` methods: a WHERE clause put together from the filters given, the order
`<time> DESC, <identity> DESC` on the texts of the columns, and a page of it.

`History` is what a caller means by it, on records and instants; `queries_page_history`
says that every query returns the pages of a history.
-/

namespace Cer

open Py Paging

/-! ## Statements -/

/-- `column = ?` for a filter that is given; NULL equals nothing. -/
def whereEq {Row : Type} (column : Row → Option String) : Option String → List (Row → Bool)
  | none => []
  | some v => [fun r => column r == some v]

/-- `column >= ?`: texts are compared bytewise, which for UTF-8 is by code points. -/
def whereFrom {Row : Type} (column : Row → String) : Option String → List (Row → Bool)
  | none => []
  | some v => [fun r => decide (v ≤ column r)]

/-- `column <= ?`. -/
def whereUntil {Row : Type} (column : Row → String) : Option String → List (Row → Bool)
  | none => []
  | some v => [fun r => decide (column r ≤ v)]

/-- `SELECT * FROM t WHERE <clauses> ORDER BY <time> DESC, <identity> DESC LIMIT ? OFFSET ?`. -/
def selectPage {Row : Type} (rows : List Row) (clauses : List (Row → Bool)) (order : Row → String × String)
    (limit offset : Int) : Except Exc (List Row) :=
  if !(Sql.fitsInt64 (.integer limit) && Sql.fitsInt64 (.integer offset)) then
    .error (.overflowError "Python int too large to convert to SQLite INTEGER")
  else .ok (slice limit offset (sortDesc (fun r => toLex (order r)) (rows.filter fun r => clauses.all (· r))))

/-- `_dt_to_str(to_utc(bound))` of a bound that is given. -/
def boundText : Option AwareTime → Except Exc (Option String)
  | none => .ok none
  | some t => (toUtc t).map fun u => some (dtToStr u)

structure EvidenceQuery where
  strategyId : Option String
  strategyVersion : Option String
  runId : Option String
  experimentId : Option String
  evidenceType : Option EvidenceType
  since : Option AwareTime
  «until» : Option AwareTime

def EvidenceRow.order (r : EvidenceRow) : String × String := (r.createdAtUtc, r.evidenceId)
def ArtifactRow.order (r : ArtifactRow) : String × String := (r.registeredAt, r.artifactId)
def PromotionRow.order (r : PromotionRow) : String × String := (r.atUtc, r.transitionId)
def HealthRow.order (r : HealthRow) : String × String := (r.observedAtUtc, r.healthId)

/-- The clauses of a query of evidence, its window already written as texts. -/
def EvidenceQuery.clauses (q : EvidenceQuery) (since till : Option String) : List (EvidenceRow → Bool) :=
  whereEq (·.strategyId) q.strategyId ++ whereEq (·.strategyVersion) q.strategyVersion ++
    whereEq (·.runId) q.runId ++ whereEq (·.experimentId) q.experimentId ++
    whereEq (fun r => some r.evidenceType) (q.evidenceType.map EvidenceType.value) ++
    whereFrom (·.createdAtUtc) since ++ whereUntil (·.createdAtUtc) till

def queryEvidence (env : Env) (db : Database) (q : EvidenceQuery) (limit offset : Int) :
    Except Exc (List EvidenceRecord) := do
  let since ← boundText q.since
  let till ← boundText q.until
  let rows ← selectPage db.evidence (q.clauses since till) EvidenceRow.order limit offset
  rows.mapM (rowToEvidence env)

/-- The clauses of a query of artifacts. -/
def artifactClauses (evidenceId runId : Option String) : List (ArtifactRow → Bool) :=
  whereEq (·.evidenceId) evidenceId ++ whereEq (·.runId) runId

/-- The clauses of a query by strategy and version. -/
def strategyClauses {Row : Type} (strategy version : Row → String) (strategyId strategyVersion : Option String) :
    List (Row → Bool) :=
  whereEq (fun r => some (strategy r)) strategyId ++ whereEq (fun r => some (version r)) strategyVersion

def queryArtifacts (db : Database) (evidenceId runId : Option String) (limit offset : Int) :
    Except Exc (List ArtifactRecord) := do
  let rows ← selectPage db.artifacts (artifactClauses evidenceId runId) ArtifactRow.order limit offset
  rows.mapM rowToArtifact

def queryPromotions (env : Env) (db : Database) (strategyId strategyVersion : Option String) (limit offset : Int) :
    Except Exc (List PromotionTransition) := do
  let rows ← selectPage db.promotions
    (strategyClauses PromotionRow.strategyId PromotionRow.strategyVersion strategyId strategyVersion)
    PromotionRow.order limit offset
  rows.mapM (rowToPromotion env)

def queryHealth (env : Env) (db : Database) (strategyId strategyVersion : Option String) (limit offset : Int) :
    Except Exc (List StrategyHealthRecord) := do
  let rows ← selectPage db.healthRecords
    (strategyClauses HealthRow.strategyId HealthRow.strategyVersion strategyId strategyVersion)
    HealthRow.order limit offset
  rows.mapM (rowToHealth env)

def getArtifact (db : Database) (artifactId : String) : Except Exc ArtifactRecord :=
  match db.artifacts.find? (·.artifactId == artifactId) with
  | none => .error (notFound s!"artifact_id {Py.repr artifactId} does not exist")
  | some row => rowToArtifact row

/-! ## Histories -/

/-- The instant of a bound, in microseconds. -/
def instantOf (t : AwareTime) : Int := t.wall.toMicros - t.offset.getD 0

/-- The filter is not given, or the field has its value. -/
def Given {α : Type} (filter : Option α) (field : Option α) : Prop := ∀ v ∈ filter, field = some v

structure EvidenceQuery.Matches (q : EvidenceQuery) (e : EvidenceRecord) : Prop where
  strategyId : Given q.strategyId e.strategyId
  strategyVersion : Given q.strategyVersion e.strategyVersion
  runId : Given q.runId e.runId
  experimentId : Given q.experimentId e.experimentId
  evidenceType : Given q.evidenceType (some e.evidenceType)
  since : ∀ t ∈ q.since, instantOf t ≤ e.createdAtUtc.toMicros
  «until» : ∀ t ∈ q.until, (e.createdAtUtc.toMicros : Int) ≤ instantOf t

/-- The bounds are instants of the years 1 to 9999. -/
def EvidenceQuery.InRange (q : EvidenceQuery) : Prop :=
  (∀ t ∈ q.since, ∃ u, toUtc t = .ok u) ∧ ∀ t ∈ q.until, ∃ u, toUtc t = .ok u

/-- The records of a table that match, newest first: by strictly descending instant and identity. -/
structure History {Row Rec : Type} (rows : List Row) (read : Row → Except Exc Rec) (Matches : Rec → Prop)
    (order : Rec → DateTime × String) (listing : List Rec) : Prop where
  mem : ∀ x, x ∈ listing ↔ (∃ r ∈ rows, read r = .ok x) ∧ Matches x
  newestFirst : listing.Pairwise fun x y => (order y).1.toMicros < (order x).1.toMicros ∨
    (order y).1.toMicros = (order x).1.toMicros ∧ (order y).2 < (order x).2

/-- Where a record stands in its listing: by its instant, then by its identity. -/
def place {Rec : Type} (order : Rec → DateTime × String) (x : Rec) : Nat ×ₗ String :=
  toLex ((order x).1.toMicros, (order x).2)

section history
variable {Row Rec : Type} {rows : List Row} {read : Row → Except Exc Rec} {Matches : Rec → Prop}
  {order : Rec → DateTime × String} {listing listing' : List Rec}

theorem History.sorted (h : History rows read Matches order listing) :
    listing.Pairwise fun x y => place order y < place order x := by
  refine h.newestFirst.imp ?_
  intro x y hxy
  exact (Prod.Lex.toLex_lt_toLex).2 hxy

/-- A history has one listing. -/
theorem History.eq (h : History rows read Matches order listing) (h' : History rows read Matches order listing') :
    listing = listing' :=
  eq_of_sorted h.sorted h'.sorted fun x => (h.mem x).trans (h'.mem x).symm

/-- The rows read to records that match, which the listing has in order. -/
theorem History.of_reads (recs : List Rec) (hreads : List.Forall₂ (fun r x => read r = .ok x) rows recs)
    (hmatches : ∀ x ∈ recs, Matches x) (hperm : listing.Perm recs)
    (hsorted : listing.Pairwise fun x y => (order y).1.toMicros < (order x).1.toMicros ∨
      (order y).1.toMicros = (order x).1.toMicros ∧ (order y).2 < (order x).2) :
    History rows read Matches order listing := by
  refine ⟨fun x => ?_, hsorted⟩
  rw [hperm.mem_iff]
  constructor
  · intro hx
    refine ⟨?_, hmatches x hx⟩
    clear hmatches hperm
    induction hreads with
    | nil => cases hx
    | cons hread _ ih =>
      rcases List.mem_cons.1 hx with rfl | hx
      · exact ⟨_, List.mem_cons_self, hread⟩
      · obtain ⟨r, hr, hread⟩ := ih hx
        exact ⟨r, List.mem_cons_of_mem _ hr, hread⟩
  · rintro ⟨⟨r, hr, hread⟩, _⟩
    clear hmatches hperm
    induction hreads with
    | nil => cases hr
    | cons hread' _ ih =>
      rcases List.mem_cons.1 hr with rfl | hr
      · rw [Except.ok.inj (hread.symm.trans hread')]
        exact List.mem_cons_self
      · exact List.mem_cons_of_mem _ (ih hr)

end history

/-- A query returns the pages of the listing, and those of one size make it up from the start. -/
structure Pages {Rec : Type} (query : Int → Int → Except Exc (List Rec)) (listing : List Rec) : Prop where
  page : ∀ limit offset : Int, 1 ≤ limit → limit < 2 ^ 63 → 0 ≤ offset → offset < 2 ^ 63 →
    query limit offset = .ok ((listing.drop offset.toNat).take limit.toNat)
  partition : ∀ n m : Nat, 1 ≤ n → n * m < 2 ^ 63 →
    (List.range m).flatMap (fun j => (query n (n * j : Nat)).toOption.getD []) = listing.take (n * m)

def EvidenceRecord.order (e : EvidenceRecord) : DateTime × String := (e.createdAtUtc, e.evidenceId)
def ArtifactRecord.order (a : ArtifactRecord) : DateTime × String := (a.registeredAt, a.artifactId)
def PromotionTransition.order (t : PromotionTransition) : DateTime × String := (t.atUtc, t.transitionId)
def StrategyHealthRecord.order (h : StrategyHealthRecord) : DateTime × String := (h.observedAtUtc, h.healthId)

/-! ## Pages of a table -/

theorem toOption_eq_some {α : Type} {x : Except Exc α} {a : α} : x.toOption = some a ↔ x = .ok a := by
  cases x with
  | error e =>
    constructor
    · intro h
      cases h
    · intro h
      cases h
  | ok b => exact ⟨fun h => congrArg Except.ok (Option.some.inj h), fun h => congrArg some (Except.ok.inj h)⟩

theorem mapM_read {Row Rec : Type} {read : Row → Except Exc Rec} {rows : List Row}
    (h : ∀ r ∈ rows, ∃ x, read r = .ok x) : rows.mapM read = .ok (rows.filterMap fun r => (read r).toOption) := by
  induction rows with
  | nil => rfl
  | cons r rows ih =>
    obtain ⟨x, hx⟩ := h r List.mem_cons_self
    rw [List.mapM_cons, hx, ok_bind, ih fun y hy => h y (List.mem_cons_of_mem _ hy), ok_bind,
      List.filterMap_cons_some (f := fun r => (read r).toOption) (toOption_eq_some.2 hx)]
    rfl

theorem selectPage_ok {Row : Type} {rows : List Row} {clauses : List (Row → Bool)} {order : Row → String × String}
    {limit offset : Int} (hl : 1 ≤ limit) (hl' : limit < 2 ^ 63) (ho : 0 ≤ offset) (ho' : offset < 2 ^ 63) :
    selectPage rows clauses order limit offset =
      .ok (slice limit offset (sortDesc (fun r => toLex (order r)) (rows.filter fun r => clauses.all (· r)))) := by
  have hlimit : Sql.fitsInt64 (.integer limit) = true := by
    simp only [Sql.fitsInt64, Bool.and_eq_true, decide_eq_true_eq]
    omega
  have hoffset : Sql.fitsInt64 (.integer offset) = true := by
    simp only [Sql.fitsInt64, Bool.and_eq_true, decide_eq_true_eq]
    omega
  unfold selectPage
  rw [hlimit, hoffset]
  rfl

/-- The pages of a listing make it up. -/
theorem Pages.of_page {Rec : Type} {query : Int → Int → Except Exc (List Rec)} {listing : List Rec}
    (h : ∀ limit offset : Int, 1 ≤ limit → limit < 2 ^ 63 → 0 ≤ offset → offset < 2 ^ 63 →
      query limit offset = .ok ((listing.drop offset.toNat).take limit.toNat)) : Pages query listing := by
  refine ⟨h, fun n m hn hnm => ?_⟩
  rw [← flatMap_pages]
  refine List.flatMap_congr fun j hj => ?_
  have hjm : n * (j + 1) ≤ n * m := Nat.mul_le_mul_left n (List.mem_range.1 hj)
  rw [Nat.mul_succ] at hjm
  rw [h n (n * j : Nat) (by omega) (by omega) (by omega) (by omega)]
  rfl

section table
variable {Row Rec : Type} {rows : List Row} {read : Row → Except Exc Rec} {rowOrder : Row → String × String}
  {order : Rec → DateTime × String} {clauses : List (Row → Bool)} {Matches : Rec → Prop}

/-- **Pages of a table**: where every row decodes to a record of its time and identity, and passes the clauses just
when the record matches, the query returns the pages of the history. -/
theorem pages_of_table (hread : ∀ r ∈ rows, ∃ x, read r = .ok x ∧
    rowOrder r = (isoformat (order x).1, (order x).2) ∧
      (clauses.all (· r) = true ↔ Matches x))
    (hids : (rows.map fun r => (rowOrder r).2).Nodup) :
    ∃ listing, History rows read Matches order listing ∧
      Pages (fun limit offset => selectPage rows clauses rowOrder limit offset
        >>= fun rs => rs.mapM read) listing := by
  obtain ⟨found, hfound⟩ : ∃ found, sortDesc (fun r => toLex (rowOrder r))
    (rows.filter fun r => clauses.all (· r)) =
      found := ⟨_, rfl⟩
  have hmem : ∀ r, r ∈ found ↔ r ∈ rows ∧ clauses.all (· r) = true := by
    intro r
    rw [← hfound, mem_sortDesc, List.mem_filter]
  have hok : ∀ r ∈ found, ∃ x, read r = .ok x := fun r hr => by
    obtain ⟨x, hx, _⟩ := hread r ((hmem r).1 hr).1
    exact ⟨x, hx⟩
  refine ⟨found.filterMap fun r => (read r).toOption, ⟨fun x => ?_, ?_⟩,
    Pages.of_page fun limit offset hl hl' ho ho' => ?_⟩
  · rw [List.mem_filterMap]
    constructor
    · rintro ⟨r, hr, hx⟩
      obtain ⟨hrow, hclauses⟩ := (hmem r).1 hr
      obtain ⟨y, hy, _, hiff⟩ := hread r hrow
      obtain rfl : y = x := Except.ok.inj (hy.symm.trans (toOption_eq_some.1 hx))
      exact ⟨⟨r, hrow, hy⟩, hiff.1 hclauses⟩
    · rintro ⟨⟨r, hrow, hx⟩, hmatch⟩
      obtain ⟨y, hy, _, hiff⟩ := hread r hrow
      obtain rfl : y = x := Except.ok.inj (hy.symm.trans hx)
      exact ⟨r, (hmem r).2 ⟨hrow, hiff.2 hmatch⟩, toOption_eq_some.2 hx⟩
  · have hnodup : ((rows.filter fun r => clauses.all (· r)).map fun r => toLex (rowOrder r)).Nodup := by
      have hsub : ((rows.filter fun r => clauses.all (· r)).map fun r => (rowOrder r).2).Nodup :=
        hids.sublist (List.filter_sublist.map _)
      refine List.Nodup.of_map (fun k => (ofLex k).2) ?_
      rw [List.map_map]
      exact hsub
    have hsorted := pairwise_sortDesc hnodup
    rw [hfound] at hsorted
    rw [List.pairwise_filterMap]
    refine hsorted.imp_of_mem ?_
    intro r r' hr hr' hlt x hx y hy
    obtain ⟨x', hx', hox, _⟩ := hread r ((hmem r).1 hr).1
    obtain ⟨y', hy', hoy, _⟩ := hread r' ((hmem r').1 hr').1
    obtain rfl : x' = x := Except.ok.inj (hx'.symm.trans (toOption_eq_some.1 hx))
    obtain rfl : y' = y := Except.ok.inj (hy'.symm.trans (toOption_eq_some.1 hy))
    rw [Prod.Lex.toLex_lt_toLex, hox, hoy] at hlt
    rcases hlt with hlt | ⟨heq, hlt⟩
    · exact Or.inl ((isoformat_lt_iff _ _).1 hlt)
    · exact Or.inr ⟨congrArg DateTime.toMicros (isoformat_inj heq), hlt⟩
  · rw [selectPage_ok hl hl' ho ho', ok_bind, hfound, mapM_read fun r hr => hok r (subset_of_slice hr),
      filterMap_slice (fun r hr => ?_), slice_of_nonneg (by omega)]
    obtain ⟨x, hx⟩ := hok r hr
    rw [toOption_eq_some.2 hx]
    rfl

end table

/-! ## Clauses -/

section clauses
variable {Row : Type} {r : Row}

theorem all_whereEq {column : Row → Option String} {v : Option String} :
    (whereEq column v).all (· r) = true ↔ Given v (column r) := by
  cases v with
  | none => simp [whereEq, Given]
  | some v => simp [whereEq, Given]

theorem all_whereFrom {column : Row → String} {v : Option String} :
    (whereFrom column v).all (· r) = true ↔ ∀ t ∈ v, t ≤ column r := by
  cases v with
  | none => simp [whereFrom]
  | some v => simp [whereFrom]

theorem all_whereUntil {column : Row → String} {v : Option String} :
    (whereUntil column v).all (· r) = true ↔ ∀ t ∈ v, column r ≤ t := by
  cases v with
  | none => simp [whereUntil]
  | some v => simp [whereUntil]

end clauses

/-- The UTC value of a bound is its instant. -/
theorem instantOf_toUtc {t : AwareTime} {u : DateTime} (h : toUtc t = .ok u) :
    (u.toMicros : Int) = instantOf t := by
  obtain ⟨wall, offset⟩ := t
  unfold toUtc at h
  cases offset with
  | none => cases h
  | some off =>
    dsimp only at h
    cases ha : astimezone wall off with
    | none =>
      rw [ha] at h
      cases h
    | some v =>
      rw [ha] at h
      cases h
      exact toMicros_astimezone ha

/-- A bound in range is written as the text of its UTC value. -/
theorem boundText_ok {bound : Option AwareTime} (h : ∀ t ∈ bound, ∃ u, toUtc t = .ok u) :
    ∃ u : Option DateTime, boundText bound = .ok (u.map isoformat) ∧
      ∀ P : Int → Prop, (∀ t ∈ bound, P (instantOf t)) ↔ ∀ v ∈ u, P v.toMicros := by
  cases bound with
  | none => exact ⟨none, rfl, fun P => by simp⟩
  | some t =>
    obtain ⟨u, hu⟩ := h t rfl
    refine ⟨some u, ?_, fun P => ?_⟩
    · show (toUtc t).map (fun u => some (dtToStr u)) = .ok (some (isoformat u))
      rw [hu]
      rfl
    · have ht := instantOf_toUtc hu
      simp [ht]

/-! ## Timestamp columns -/

/-- Two columns of times compare as the times of the records their rows were written for. -/
def OrdersInstants {Rec : Type} (column : Rec → String) (time : Rec → DateTime) : Prop :=
  ∀ x y, encodeUtf8 (column x) < encodeUtf8 (column y) ↔ (time x).toMicros < (time y).toMicros

/-- The bytes of the text: `+` comes before `.`, so that the whole second comes first. -/
theorem dtToStr_lt_iff (a b : DateTime) : encodeUtf8 (dtToStr a) < encodeUtf8 (dtToStr b) ↔
    a.toMicros < b.toMicros := by
  unfold encodeUtf8 dtToStr
  rw [utf8_lt_iff, isoformat_lt_iff]

/-- **Stored times**: the text of a UTC time is read back as that time, and the bytes of the texts stand in the
order of the instants, as the columns of times do. -/
theorem stored_times_keep_order (env : Env) :
    (∀ a : DateTime, strToDt (dtToStr a) = .ok a) ∧
      (∀ a b : DateTime, a.toMicros < b.toMicros ↔ encodeUtf8 (dtToStr a) < encodeUtf8 (dtToStr b)) ∧
      OrdersInstants (fun e : EvidenceRecord => (e.toRow env).createdAtUtc) (·.createdAtUtc) ∧
      (∀ key producer, OrdersInstants (fun a : ArtifactRecord => (a.toRow env key producer).registeredAt)
        (·.registeredAt)) ∧
      (∀ key, OrdersInstants (fun t : PromotionTransition => (t.toRow env key).atUtc) (·.atUtc)) ∧
      ∀ key, OrdersInstants (fun h : StrategyHealthRecord => (h.toRow env key).observedAtUtc)
        (·.observedAtUtc) := by
  refine ⟨strToDt_dtToStr, fun a b => (dtToStr_lt_iff a b).symm, ?_, ?_, ?_, ?_⟩
  · intro x y
    exact dtToStr_lt_iff x.createdAtUtc y.createdAtUtc
  · intro key producer x y
    exact dtToStr_lt_iff x.registeredAt y.registeredAt
  · intro key x y
    exact dtToStr_lt_iff x.atUtc y.atUtc
  · intro key x y
    exact dtToStr_lt_iff x.observedAtUtc y.observedAtUtc

example : dtToStr ⟨999, 12, 31, 23, 59, 59, 0, by decide⟩ <
    dtToStr ⟨999, 12, 31, 23, 59, 59, 1, by decide⟩ := by decide

/-! ## The four queries -/

section queries
variable {env : Env} {db : Database}

theorem all_clauses (q : EvidenceQuery) (since till : Option String) (r : EvidenceRow) :
    (q.clauses since till).all (· r) = true ↔ Given q.strategyId r.strategyId ∧
      Given q.strategyVersion r.strategyVersion ∧ Given q.runId r.runId ∧ Given q.experimentId r.experimentId ∧
      Given (q.evidenceType.map EvidenceType.value) (some r.evidenceType) ∧ (∀ t ∈ since, t ≤ r.createdAtUtc) ∧
      ∀ t ∈ till, r.createdAtUtc ≤ t := by
  unfold EvidenceQuery.clauses
  simp only [List.all_append, Bool.and_eq_true, all_whereEq, all_whereFrom, all_whereUntil, and_assoc]

theorem given_map {α β : Type} {f : α → β} (hf : Function.Injective f) {filter : Option α} {v : α} :
    Given (filter.map f) (some (f v)) ↔ Given filter (some v) := by
  cases filter with
  | none => simp [Given]
  | some w => simp [Given, hf.eq_iff]

/-- On the row of a record, the clauses are the query. -/
theorem clauses_iff_matches {q : EvidenceQuery} {since till : Option DateTime}
    (hfrom : ∀ P : Int → Prop, (∀ t ∈ q.since, P (instantOf t)) ↔ ∀ v ∈ since, P v.toMicros)
    (hto : ∀ P : Int → Prop, (∀ t ∈ q.until, P (instantOf t)) ↔ ∀ v ∈ till, P v.toMicros) (e : EvidenceRecord) :
    (q.clauses (since.map isoformat) (till.map isoformat)).all (· (e.toRow env)) = true ↔ q.Matches e.stored := by
  have hwindow : ∀ (bound : Option DateTime) (R : String → Prop), (∀ t ∈ bound.map isoformat, R t) ↔
      ∀ v ∈ bound, R (isoformat v) := by
    intro bound R
    cases bound <;> simp
  have hsince : (∀ t ∈ since.map isoformat, t ≤ isoformat e.createdAtUtc) ↔
      ∀ t ∈ q.since, instantOf t ≤ e.createdAtUtc.toMicros := by
    rw [hwindow, hfrom fun n => n ≤ e.createdAtUtc.toMicros]
    simp only [isoformat_le_iff, Int.ofNat_le]
  have htill : (∀ t ∈ till.map isoformat, isoformat e.createdAtUtc ≤ t) ↔
      ∀ t ∈ q.until, (e.createdAtUtc.toMicros : Int) ≤ instantOf t := by
    rw [hwindow till fun s => isoformat e.createdAtUtc ≤ s, hto fun n => (e.createdAtUtc.toMicros : Int) ≤ n]
    simp only [isoformat_le_iff, Int.ofNat_le]
  rw [all_clauses]
  constructor
  · rintro ⟨h1, h2, h3, h4, h5, h6, h7⟩
    exact ⟨h1, h2, h3, h4, (given_map fun _ _ => EvidenceType.value_inj).1 h5, hsince.1 h6, htill.1 h7⟩
  · intro h
    exact ⟨h.strategyId, h.strategyVersion, h.runId, h.experimentId,
      (given_map fun _ _ => EvidenceType.value_inj).2 h.evidenceType, hsince.2 h.since, htill.2 h.until⟩

theorem WellFormed.queryEvidence_pages (h : WellFormed env db) {q : EvidenceQuery} (hq : q.InRange) :
    ∃ listing, History db.evidence (rowToEvidence env) q.Matches EvidenceRecord.order listing ∧
      Pages (queryEvidence env db q) listing := by
  obtain ⟨since, hsince, hfrom⟩ := boundText_ok hq.1
  obtain ⟨till, htill, hto⟩ := boundText_ok hq.2
  have hids : (db.evidence.map fun r => (EvidenceRow.order r).2).Nodup := h.evidence.distinct.idents
  have hread : ∀ r ∈ db.evidence, ∃ x, rowToEvidence env r = .ok x ∧
      EvidenceRow.order r = (isoformat (EvidenceRecord.order x).1, (EvidenceRecord.order x).2) ∧
      ((q.clauses (since.map isoformat) (till.map isoformat)).all (· r) = true ↔ q.Matches x) := by
    intro r hr
    obtain ⟨e, _, rfl, hread⟩ := (h.evidence.origin r hr).read
    exact ⟨_, hread, rfl, clauses_iff_matches hfrom hto e⟩
  obtain ⟨listing, hhistory, hpages⟩ := pages_of_table hread hids
  refine ⟨listing, hhistory, ?_⟩
  unfold queryEvidence
  rw [hsince, htill]
  exact hpages

/-- The two links of an artifact that `query_artifacts` filters by. -/
def ArtifactRecord.Matches (evidenceId runId : Option String) (a : ArtifactRecord) : Prop :=
  Given evidenceId a.evidenceId ∧ Given runId a.runId

theorem WellFormed.queryArtifacts_pages (h : WellFormed env db) (evidenceId runId : Option String) :
    ∃ listing, History db.artifacts rowToArtifact (ArtifactRecord.Matches evidenceId runId) ArtifactRecord.order
      listing ∧ Pages (queryArtifacts db evidenceId runId) listing := by
  have hids : (db.artifacts.map fun r => (ArtifactRow.order r).2).Nodup := h.artifacts.distinct.idents
  have hread : ∀ r ∈ db.artifacts, ∃ x, rowToArtifact r = .ok x ∧
      ArtifactRow.order r = (isoformat (ArtifactRecord.order x).1, (ArtifactRecord.order x).2) ∧
      ((artifactClauses evidenceId runId).all (· r) = true ↔ x.Matches evidenceId runId) := by
    intro r hr
    obtain ⟨a, k, p, _, rfl, hread⟩ := (h.artifacts.origin r hr).read
    refine ⟨a, hread, rfl, ?_⟩
    unfold artifactClauses
    rw [List.all_append, Bool.and_eq_true, all_whereEq, all_whereEq]
    rfl
  exact pages_of_table hread hids

/-- The strategy and version that a query filters by. -/
def StrategyMatches (strategyId strategyVersion : Option String) (s v : String) : Prop :=
  Given strategyId (some s) ∧ Given strategyVersion (some v)

theorem all_strategyClauses {Row : Type} {strategy version : Row → String}
    {strategyId strategyVersion : Option String}
    {r : Row} : (strategyClauses strategy version strategyId strategyVersion).all (· r) = true ↔
      StrategyMatches strategyId strategyVersion (strategy r) (version r) := by
  unfold strategyClauses
  rw [List.all_append, Bool.and_eq_true, all_whereEq, all_whereEq]
  rfl

theorem WellFormed.queryPromotions_pages (h : WellFormed env db) (strategyId strategyVersion : Option String) :
    ∃ listing, History db.promotions (rowToPromotion env)
      (fun t => StrategyMatches strategyId strategyVersion t.strategyId t.strategyVersion)
        PromotionTransition.order
      listing ∧ Pages (queryPromotions env db strategyId strategyVersion) listing := by
  have hids : (db.promotions.map fun r => (PromotionRow.order r).2).Nodup := h.promotions.distinct.idents
  have hread : ∀ r ∈ db.promotions, ∃ x, rowToPromotion env r = .ok x ∧
      PromotionRow.order r = (isoformat (PromotionTransition.order x).1, (PromotionTransition.order x).2) ∧
      ((strategyClauses PromotionRow.strategyId PromotionRow.strategyVersion strategyId strategyVersion).all
        (· r) = true ↔
        StrategyMatches strategyId strategyVersion x.strategyId x.strategyVersion) := by
    intro r hr
    obtain ⟨t, k, _, rfl, hread⟩ := (h.promotions.origin r hr).read
    exact ⟨t, hread, rfl, all_strategyClauses⟩
  exact pages_of_table hread hids

theorem WellFormed.queryHealth_pages (h : WellFormed env db) (strategyId strategyVersion : Option String) :
    ∃ listing, History db.healthRecords (rowToHealth env)
      (fun x => StrategyMatches strategyId strategyVersion x.strategyId x.strategyVersion)
        StrategyHealthRecord.order
      listing ∧ Pages (queryHealth env db strategyId strategyVersion) listing := by
  have hids : (db.healthRecords.map fun r => (HealthRow.order r).2).Nodup := h.healthRecords.distinct.idents
  have hread : ∀ r ∈ db.healthRecords, ∃ x, rowToHealth env r = .ok x ∧
      HealthRow.order r = (isoformat (StrategyHealthRecord.order x).1, (StrategyHealthRecord.order x).2) ∧
      ((strategyClauses HealthRow.strategyId HealthRow.strategyVersion strategyId strategyVersion).all
        (· r) = true ↔
        StrategyMatches strategyId strategyVersion x.strategyId x.strategyVersion) := by
    intro r hr
    obtain ⟨x, k, _, rfl, hread⟩ := (h.healthRecords.origin r hr).read
    exact ⟨_, hread, rfl, all_strategyClauses⟩
  exact pages_of_table hread hids

end queries

/-- **Every query returns the pages of the matching history**, newest first, whatever filters are given. -/
theorem queries_page_history (env : Env) {db : Database} (reached : Reachable env db) :
    (∀ q : EvidenceQuery, q.InRange → ∃ listing,
      History db.evidence (rowToEvidence env) q.Matches EvidenceRecord.order listing ∧
        Pages (queryEvidence env db q) listing) ∧
    (∀ evidenceId runId, ∃ listing,
      History db.artifacts rowToArtifact (ArtifactRecord.Matches evidenceId runId) ArtifactRecord.order listing ∧
        Pages (queryArtifacts db evidenceId runId) listing) ∧
    (∀ strategyId strategyVersion, ∃ listing,
      History db.promotions (rowToPromotion env)
        (fun t => StrategyMatches strategyId strategyVersion t.strategyId t.strategyVersion)
          PromotionTransition.order
        listing ∧ Pages (queryPromotions env db strategyId strategyVersion) listing) ∧
    ∀ strategyId strategyVersion, ∃ listing,
      History db.healthRecords (rowToHealth env)
        (fun x => StrategyMatches strategyId strategyVersion x.strategyId x.strategyVersion)
          StrategyHealthRecord.order
        listing ∧ Pages (queryHealth env db strategyId strategyVersion) listing := by
  have hwf := reached.wellFormed
  exact ⟨fun _ hq => hwf.queryEvidence_pages hq, hwf.queryArtifacts_pages, hwf.queryPromotions_pages,
    hwf.queryHealth_pages⟩

/-- Two more promotions of the sample's strategy, both of one instant five seconds later. -/
def samplePromotionSecond : PromotionTransition := { samplePromotionLater with transitionId := "promo_02" }

def samplePromotionThird : PromotionTransition :=
  { samplePromotionLater with transitionId := "promo_03", strategyVersion := "1.1.0" }

def sampleSecond : Database :=
  { samplePromoted with promotions := samplePromoted.promotions ++ [samplePromotionSecond.toRow .reference none] }

def sampleThird : Database :=
  { sampleSecond with promotions := sampleSecond.promotions ++ [samplePromotionThird.toRow .reference none] }

theorem sampleSecond_record : (Write.recordPromotion samplePromotionSecond none).run .reference samplePromoted =
    .ok (.promotion samplePromotionSecond, sampleSecond) := rfl

theorem sampleThird_record : (Write.recordPromotion samplePromotionThird none).run .reference sampleSecond =
    .ok (.promotion samplePromotionThird, sampleThird) := rfl

theorem samplePromotionSecond_valid : samplePromotionSecond.Valid := by
  unfold PromotionTransition.Valid
  decide +kernel

theorem samplePromotionThird_valid : samplePromotionThird.Valid := by
  unfold PromotionTransition.Valid
  decide +kernel

theorem sampleSecond_reachable : Reachable .reference sampleSecond :=
  .commit (w := .recordPromotion samplePromotionSecond none) samplePromoted_reachable samplePromotionSecond_valid
    sampleSecond_record

theorem sampleThird_reachable : Reachable .reference sampleThird :=
  .commit (w := .recordPromotion samplePromotionThird none) sampleSecond_reachable samplePromotionThird_valid
    sampleThird_record

/-- The promotions of the sample's strategy, as `query_promotions` filters them. -/
abbrev ofSampleStrategy (t : PromotionTransition) : Prop :=
  StrategyMatches (some "strat_01") none t.strategyId t.strategyVersion

theorem samplePromotions_match {t : PromotionTransition} (h : t.strategyId = "strat_01") : ofSampleStrategy t := by
  refine ⟨fun x hx => ?_, fun x hx => by cases hx⟩
  cases hx
  rw [h]

theorem sampleSecond_history : History sampleSecond.promotions (rowToPromotion .reference) ofSampleStrategy
    PromotionTransition.order [samplePromotionSecond, samplePromotion] := by
  refine History.of_reads [samplePromotion, samplePromotionSecond] ?_ ?_ (.swap _ _ _) (by decide)
  · exact .cons (rowToPromotion_toRow _ samplePromotion_valid _)
      (.cons (rowToPromotion_toRow _ samplePromotionSecond_valid _) .nil)
  · simp only [List.forall_mem_cons]
    exact ⟨samplePromotions_match rfl, samplePromotions_match rfl, List.forall_mem_nil _⟩

theorem sampleThird_history : History sampleThird.promotions (rowToPromotion .reference) ofSampleStrategy
    PromotionTransition.order [samplePromotionThird, samplePromotionSecond, samplePromotion] := by
  refine History.of_reads [samplePromotion, samplePromotionSecond, samplePromotionThird] ?_ ?_ ?_ (by decide)
  · exact .cons (rowToPromotion_toRow _ samplePromotion_valid _)
      (.cons (rowToPromotion_toRow _ samplePromotionSecond_valid _)
        (.cons (rowToPromotion_toRow _ samplePromotionThird_valid _) .nil))
  · simp only [List.forall_mem_cons]
    exact ⟨samplePromotions_match rfl, samplePromotions_match rfl, samplePromotions_match rfl,
      List.forall_mem_nil _⟩
  · exact List.reverse_perm [samplePromotion, samplePromotionSecond, samplePromotionThird]

/-- The promotions of the sample's strategy in pages of two, ties by identity. -/
theorem sampleThird_pages :
    queryPromotions .reference sampleThird (some "strat_01") none 2 0 =
        .ok [samplePromotionThird, samplePromotionSecond] ∧
      queryPromotions .reference sampleThird (some "strat_01") none 2 2 = .ok [samplePromotion] := by
  obtain ⟨listing, hhistory, hpages⟩ :=
    (queries_page_history .reference sampleThird_reachable).2.2.1 (some "strat_01") none
  rw [hhistory.eq sampleThird_history] at hpages
  exact ⟨hpages.page 2 0 (by decide) (by decide) (by decide) (by decide),
    hpages.page 2 2 (by decide) (by decide) (by decide) (by decide)⟩

theorem yearOne_inRange : (1 ≤ 1 ∧ 1 ≤ 9999) ∧ (1 ≤ 1 ∧ 1 ≤ 12) ∧ (1 ≤ 1 ∧ 1 ≤ daysInMonth 1 1) ∧ 0 < 24 ∧ 0 < 60 ∧
    0 < 60 ∧ 0 < 1000000 := by
  decide

/-- The first instant of year 1 in a zone an hour ahead: no UTC value. -/
def beforeYearOne : AwareTime := ⟨⟨1, 1, 1, 0, 0, 0, 0, yearOne_inRange⟩, some 3600000000⟩

/-- A bound with no UTC value and a limit past 64 bits are refused, where a page is asked for. -/
theorem query_refuses_out_of_range :
    queryEvidence .reference .empty ⟨none, none, none, none, none, some beforeYearOne, none⟩ 1 0 =
        .error (.overflowError "date value out of range") ∧
      queryArtifacts .empty none none (2 ^ 63) 0 =
        .error (.overflowError "Python int too large to convert to SQLite INTEGER") := by
  refine ⟨?_, rfl⟩
  have hbound : boundText (some beforeYearOne) = .error (.overflowError "date value out of range") := by decide
  unfold queryEvidence
  rw [hbound]
  rfl

end Cer
