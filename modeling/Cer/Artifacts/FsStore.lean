import Cer.Contract.Models
import Cer.Lib.AtomicFile
import Cer.Lib.JsonRoundTrip
import Cer.Runtime.Env

/-!
# `FilesystemArtifactStore`

Blobs stand at a path made of their digest, and each registration has a sidecar of its
own, `index/<artifact_id>.json`.  `Volume` is what is on disk under the root; the store
object adds one flag, whether it has ever seen the layout.

The methods are given here as functions of the volume and the flag.  The steps `put`
takes on the file system, one by one, are in `Cer.Artifacts.Integrity`.
-/

namespace Cer

open Py

abbrev Bytes := List UInt8

/-! ## The volume -/

/-- The files under the root; a blob's path is `blobs/ab/cd/<sha256>`, a function of its digest. -/
inductive StorePath
  | marker
  | blob (sha256 : String)
  | sidecar (artifactId : String)
deriving DecidableEq

structure Volume where
  root : Bool
  blobsDir : Bool
  indexDir : Bool
  disk : AtomicFile.Disk StorePath UInt8

def Volume.empty : Volume := ⟨false, false, false, .empty⟩

def Volume.blob (v : Volume) (sha256 : String) : Option Bytes := v.disk.file (.blob sha256)

def Volume.sidecar (v : Volume) (artifactId : String) : Option Bytes := v.disk.file (.sidecar artifactId)

/-- `_backing_present`. -/
def Volume.backingPresent (v : Volume) : Bool := v.root && v.blobsDir && v.indexDir && (v.disk.file .marker).isSome

/-! ## The store -/

structure FsStore where
  env : Env
  /-- `str(root)` and `root.as_uri()`. -/
  rootPath : String
  rootUri : String
  maxBytes : Nat
  /-- `record.model_dump_json().encode("utf-8")`. -/
  encode : ArtifactRecord → Bytes
  /-- `ArtifactRecord.model_validate_json(raw)`; `none` where it raises. -/
  decode : Bytes → Option ArtifactRecord
  decode_encode : ∀ r : ArtifactRecord, r.Valid → decode (encode r) = some r

def artifactStoreError (message : String) : Exc := ErrorClass.artifactStoreError.exc message

/-- `_safe_artifact_id`. -/
def safeArtifactId (artifactId : String) : Except Exc String :=
  if artifactId == "" || artifactId.toList.contains '/' || artifactId.toList.contains Py.backslash ||
      artifactId == "." || artifactId == ".." then
    .error (ErrorClass.notFound.exc s!"artifact_id {Py.repr artifactId} is not a known artifact")
  else .ok artifactId

/-- The file name under `index/` (`_sidecar_path`). -/
def sidecarName (artifactId : String) : Except Exc String := do
  let safe ← safeArtifactId artifactId
  return safe ++ ".json"

/-- Why the operating system opens no file of a name. -/
inductive RefusedName
  | embeddedNull
  | tooLong
deriving DecidableEq

/-- `len(name.encode())`. -/
def utf8Length (name : String) : Nat := (name.toList.map Char.utf8Size).sum

/-- A name with a NUL in it, or of more than 255 bytes. -/
def refusedName (name : String) : Option RefusedName :=
  if name.toList.contains (Char.ofNat 0) then some .embeddedNull
  else if 255 < utf8Length name then some .tooLong
  else none

/-- `ENAMETOOLONG`, as the `OSError` of the path says it. -/
def nameTooLong (path : String) : String := s!"[Errno 36] File name too long: {Py.repr path}"

structure PutArgs where
  data : Bytes
  contentType : String
  filename : String
  declaredSha256 : Option String
deriving DecidableEq

section store
variable (s : FsStore)

def FsStore.blobPath (sha256 : String) : String :=
  "/blobs/" ++ (sha256.take 2).toString ++ "/" ++ ((sha256.drop 2).take 2).toString ++ "/" ++ sha256

/-- `_blob_uri`. -/
def FsStore.blobUri (sha256 : String) : String := s.rootUri ++ FsStore.blobPath sha256

/-- The digest of a put's bytes. -/
def FsStore.computed (a : PutArgs) : String := s.env.sha256 a.data

/-- What `put` checks before it touches the disk. -/
def FsStore.checkPut (a : PutArgs) : Except Exc Unit :=
  if strip a.contentType == "" then
    .error (.cer .artifactStoreError "content_type must be a non-empty string" "invalid_content_type")
  else if strip a.filename == "" then
    .error (.cer .artifactStoreError "filename must be a non-empty string" "invalid_filename")
  else if s.maxBytes < a.data.length then
    .error (.cer .artifactStoreError s!"artifact size {a.data.length} bytes exceeds max_bytes {s.maxBytes}"
      "artifact_too_large")
  else match a.declaredSha256 with
    | none => .ok ()
    | some d =>
      if lower d ≠ s.computed a then
        .error (ErrorClass.checksumMismatch.exc
          (s!"declared_sha256 {Py.repr d} does not match computed digest {Py.repr (s.computed a)} "
            ++ "— nothing written"))
      else .ok ()

def FsStore.backingGone (refusingTo : String) : Exc :=
  artifactStoreError (s!"artifact store at {s.rootPath} was initialised but its backing storage is no longer " ++
    s!"present (root/blobs/index/marker not all found) — refusing to {refusingTo}; " ++
    "the volume may have been unmounted or deleted")

/-- `_require_live_backing`, its `_initialised` flag given. -/
def FsStore.requireLiveBacking (v : Volume) (initialised : Bool) (refusingTo : String) : Except Exc Unit :=
  if initialised && !v.backingPresent then .error (s.backingGone refusingTo) else .ok ()

/-- `isoformat_utc(now)`: the stamp up to its seconds, the milliseconds and a `Z`. -/
def isoformatUtc (t : DateTime) : String :=
  String.ofList (t.stamp.take 19 ++ '.' :: padDigits 3 (t.microsecond / 1000) ++ ['Z'])

/-- The marker's content. -/
def markerText (now : DateTime) : Bytes :=
  encodeUtf8 ("\x7b\"layout_version\": 1, \"created_at_utc\": \"" ++ isoformatUtc now ++ "\"\x7d")

/-- `initialise`: what is there stays, the marker included. -/
def initialise (v : Volume) (now : DateTime) : Volume :=
  { root := true, blobsDir := true, indexDir := true
    disk := if (v.disk.file .marker).isSome then v.disk else v.disk.write .marker (markerText now) }

def digestCollision (sha256 : String) : Exc :=
  ErrorClass.immutabilityError.exc
    (s!"an artifact blob for sha256 {sha256} already exists with different content " ++
    "(on-disk corruption or a hash collision) — refusing to silently overwrite")

/-- `_store_blob`. -/
def FsStore.storeBlob (v : Volume) (a : PutArgs) : Except Exc Volume :=
  match v.blob (s.computed a) with
  | some existing => if existing = a.data then .ok v else .error (digestCollision (s.computed a))
  | none => .ok { v with disk := v.disk.write (.blob (s.computed a)) a.data }

/-- The record `put` makes: its identity and time are new. -/
def FsStore.newRecord (a : PutArgs) (u : UuidHex) (now : DateTime) : ArtifactRecord :=
  { artifactId := newArtifactId u, sha256 := s.computed a, sizeBytes := a.data.length, contentType := a.contentType
    filename := a.filename, uri := s.blobUri (s.computed a), registeredAt := now,
    runId := none, evidenceId := none }

/-- The layout `put` writes into: there, or made for a store that never saw one. -/
def FsStore.backing (v : Volume) (initialised : Bool) (now : DateTime) : Except Exc Volume :=
  if v.backingPresent then .ok v
  else (s.requireLiveBacking v initialised "register a new artifact").map fun _ => initialise v now

/-- `put`: what it returns or raises, the volume and the flag it leaves. -/
def FsStore.put (v : Volume) (initialised : Bool) (a : PutArgs) (u : UuidHex) (now : DateTime) :
    Except Exc ArtifactRecord × Volume × Bool :=
  match s.checkPut a with
  | .error e => (.error e, v, initialised)
  | .ok _ => match s.backing v initialised now with
    | .error e => (.error e, v, initialised)
    | .ok v => match s.storeBlob v a with
      | .error e => (.error e, v, true)
      | .ok v => match (s.newRecord a u now).construct with
        | .error e => (.error e, v, true)
        | .ok record =>
          (.ok record, { v with disk := v.disk.write (.sidecar record.artifactId) (s.encode record) }, true)

def FsStore.stat (v : Volume) (initialised : Bool) (artifactId : String) : Except Exc ArtifactRecord := do
  let name ← sidecarName artifactId
  match refusedName name with
  | some .embeddedNull => .error (.valueError "embedded null byte")
  | some .tooLong =>
    .error (artifactStoreError (s!"failed to read artifact index for {Py.repr artifactId}: " ++
      nameTooLong (s.rootPath ++ "/index/" ++ name)))
  | none => match v.sidecar artifactId with
    | none =>
      -- a store that has gone is not the caller's fault
      s.requireLiveBacking v initialised s!"report artifact {Py.repr artifactId} as unregistered"
      .error (ErrorClass.notFound.exc s!"artifact_id {Py.repr artifactId} is not registered")
    | some raw => match s.decode raw with
      | none => .error (artifactStoreError s!"artifact index for {Py.repr artifactId} is corrupt")
      | some record => .ok record

def FsStore.get (v : Volume) (initialised : Bool) (artifactId : String) : Except Exc Bytes := do
  let record ← s.stat v initialised artifactId
  match v.blob record.sha256 with
  | none => .error (artifactStoreError
      (s!"artifact {Py.repr artifactId} is registered but its blob is missing at " ++
      s.rootPath ++ FsStore.blobPath record.sha256))
  | some data =>
    if s.env.sha256 data ≠ record.sha256 then
      .error (ErrorClass.checksumMismatch.exc
        (s!"blob for artifact {Py.repr artifactId} failed checksum verification on read: expected {record.sha256}, " ++
          s!"computed {s.env.sha256 data} — refusing to serve corrupted evidence"))
    else .ok data

/-- `exists`: `is_file` is false of a name that cannot be opened. -/
def FsStore.exists (v : Volume) (artifactId : String) : Bool :=
  match sidecarName artifactId with
  | .error _ => false
  | .ok name => (refusedName name).isNone && (v.sidecar artifactId).isSome

/-- `health`, and the flag it leaves. -/
def FsStore.health (v : Volume) (initialised : Bool) : Except Exc Unit × Bool :=
  if v.backingPresent then (.ok (), true)
  else (.error (artifactStoreError
    (s!"artifact store at {s.rootPath} is not initialised, or its backing storage is " ++
    "missing (root/blobs/index/marker not all present) — call initialise() first, or the volume may have been " ++
    "unmounted or deleted")), initialised)

end store

/-! ## The record of a put -/

theorem toLower_of_isHexLower {c : Char} (h : isHexLower c = true) : c.toLower = c := by
  unfold isHexLower at h
  unfold Char.toLower
  simp only [Bool.or_eq_true, Bool.and_eq_true, decide_eq_true_eq, Char.le_def] at h
  have hn : ¬ (c.val ≥ 'A'.val ∧ c.val ≤ 'Z'.val) := by
    have h0 : ('0' : Char).val = 48 := rfl
    have h9 : ('9' : Char).val = 57 := rfl
    have ha : ('a' : Char).val = 97 := rfl
    have hf : ('f' : Char).val = 102 := rfl
    have hA : ('A' : Char).val = 65 := rfl
    have hZ : ('Z' : Char).val = 90 := rfl
    rw [h0, h9, ha, hf] at h
    rw [hA, hZ]
    simp only [ge_iff_le, UInt32.le_iff_toNat_le] at h ⊢
    have c1 : (48 : UInt32).toNat = 48 := rfl
    have c2 : (57 : UInt32).toNat = 57 := rfl
    have c3 : (97 : UInt32).toNat = 97 := rfl
    have c4 : (102 : UInt32).toNat = 102 := rfl
    have c5 : (65 : UInt32).toNat = 65 := rfl
    have c6 : (90 : UInt32).toNat = 90 := rfl
    omega
  rw [dif_neg hn]

theorem lower_of_isHexLower {t : String} (h : t.toList.all isHexLower = true) : lower t = t := by
  have hmap : t.toList.map Char.toLower = t.toList := by
    have hid : t.toList.map Char.toLower = t.toList.map id :=
      List.map_congr_left fun c hc => toLower_of_isHexLower (List.all_eq_true.1 h c hc)
    rw [hid, List.map_id]
  unfold lower
  rw [← String.toList_inj, String.toList_map, hmap]

theorem strip_empty : strip "" = "" := by decide

theorem isBlank_eq_false {t : String} (h : strip t ≠ "") : isBlank t = false := by
  have hne : t ≠ "" := by
    intro he
    rw [he] at h
    exact h strip_empty
  simp [isBlank, h, hne]

theorem checkPut_ok {s : FsStore} {a : PutArgs} (h : s.checkPut a = .ok ()) :
    strip a.contentType ≠ "" ∧ strip a.filename ≠ "" ∧ a.data.length ≤ s.maxBytes ∧
      ∀ d ∈ a.declaredSha256, lower d = s.computed a := by
  unfold FsStore.checkPut at h
  split at h
  · cases h
  · next hc =>
    split at h
    · cases h
    · next hf =>
      split at h
      · cases h
      · next hm =>
        refine ⟨by simpa using hc, by simpa using hf, Nat.not_lt.1 hm, fun d hd => ?_⟩
        rw [Option.mem_def.1 hd] at h
        dsimp only at h
        by_cases he : lower d = s.computed a
        · exact he
        · rw [if_pos he] at h
          cases h

/-- The constructor takes the record of a put whose arguments passed. -/
theorem FsStore.newRecord_valid {s : FsStore} {a : PutArgs} (h : s.checkPut a = .ok ())
    (u : UuidHex) (now : DateTime) :
    (s.newRecord a u now).Valid := by
  obtain ⟨hc, hf, _, _⟩ := checkPut_ok h
  have hsha : lower (s.computed a) = s.computed a := lower_of_isHexLower (s.env.sha256_hex a.data)
  refine (ArtifactRecord.valid_iff _).2 ⟨fun c hmem => ?_, ?_⟩
  · unfold ArtifactRecord.checks FsStore.newRecord at hmem
    simp only [List.mem_cons, List.not_mem_nil, or_false] at hmem
    rcases hmem with rfl | rfl | rfl | rfl | rfl | rfl | rfl | rfl
    · rw [validateArtifactId_new]
      rfl
    · unfold sha256Check
      rw [hsha, if_neg]
      rw [not_or]
      have hhex : (s.computed a).toList.all isHexLower = true := s.env.sha256_hex a.data
      refine ⟨not_not_intro (s.env.sha256_length a.data), ?_⟩
      rw [hhex]
      decide
    · rw [if_neg (by omega)]
    · unfold nonEmpty
      rw [isBlank_eq_false hc]
      rfl
    · unfold nonEmpty
      rw [isBlank_eq_false hf]
      rfl
    · -- the path in the uri is no whitespace
      have huri : isBlank (s.blobUri (s.computed a)) = false := by
        rw [Bool.eq_false_iff]
        intro hb
        have hslash : '/' ∈ (s.blobUri (s.computed a)).toList := by
          unfold FsStore.blobUri FsStore.blobPath
          rw [String.toList_append, String.toList_append, String.toList_append,
            String.toList_append, String.toList_append]
          simp
        exact absurd ((isBlank_iff _).1 hb _ hslash) (by decide)
      unfold nonEmpty
      rw [huri]
      rfl
    · rfl
    · rfl
  · unfold FsStore.newRecord
    dsimp only
    rw [hsha]

/-- `put` once its arguments passed: the constructor refuses nothing. -/
theorem FsStore.put_checked {s : FsStore} {a : PutArgs} (h : s.checkPut a = .ok ())
    (v : Volume) (initialised : Bool)
    (u : UuidHex) (now : DateTime) :
    s.put v initialised a u now = match s.backing v initialised now with
      | .error e => (.error e, v, initialised)
      | .ok v => match s.storeBlob v a with
        | .error e => (.error e, v, true)
        | .ok v => (.ok (s.newRecord a u now),
            { v with disk := v.disk.write (.sidecar (newArtifactId u)) (s.encode
              (s.newRecord a u now)) }, true) := by
  have hrec : (s.newRecord a u now).construct = .ok (s.newRecord a u now) := FsStore.newRecord_valid h u now
  unfold FsStore.put
  rw [h]
  dsimp only
  cases s.backing v initialised now with
  | error e => rfl
  | ok v =>
    dsimp only
    cases s.storeBlob v a with
    | error e => rfl
    | ok v =>
      dsimp only
      rw [hrec]
      rfl

/-- A put that answers: its record is the new one, its bytes are stored and then its sidecar. -/
theorem FsStore.put_ok {s : FsStore} {v w : Volume} {i j : Bool} {a : PutArgs} {u : UuidHex} {now : DateTime}
    {r : ArtifactRecord} (h : s.put v i a u now = (.ok r, w, j)) : s.checkPut a = .ok () ∧
    r = s.newRecord a u now ∧
      j = true ∧ ∃ v₁ v₂, s.backing v i now = .ok v₁ ∧ s.storeBlob v₁ a = .ok v₂ ∧
        w = { v₂ with disk := v₂.disk.write (.sidecar (newArtifactId u)) (s.encode r) } := by
  cases hc : s.checkPut a with
  | error e =>
    unfold FsStore.put at h
    rw [hc] at h
    cases h
  | ok _ =>
    rw [FsStore.put_checked hc] at h
    split at h
    · cases h
    · next v₁ hb =>
      split at h
      · cases h
      · next v₂ hs =>
        cases h
        exact ⟨rfl, rfl, rfl, v₁, v₂, hb, hs, rfl⟩

/-- There is no layout to write into where one was and is gone. -/
theorem FsStore.backing_error {s : FsStore} {v : Volume} {i : Bool} {now : DateTime} {e : Exc}
    (h : s.backing v i now = .error e) :
    v.backingPresent = false ∧ i = true ∧ e = s.backingGone "register a new artifact" := by
  unfold FsStore.backing FsStore.requireLiveBacking at h
  cases hp : v.backingPresent with
  | true =>
    rw [hp] at h
    cases h
  | false =>
    rw [hp] at h
    cases i with
    | true =>
      cases h
      exact ⟨rfl, rfl, rfl⟩
    | false => cases h

/-- A blob is not stored where other bytes have its digest. -/
theorem FsStore.storeBlob_error {s : FsStore} {v : Volume} {a : PutArgs} {e : Exc}
    (h : s.storeBlob v a = .error e) :
    e = digestCollision (s.computed a) ∧ ∃ existing, v.blob (s.computed a) = some existing ∧
    existing ≠ a.data := by
  unfold FsStore.storeBlob at h
  split at h
  · next existing hx =>
    split at h
    · cases h
    · next hd =>
      cases h
      exact ⟨rfl, existing, hx, hd⟩
  · cases h

/-- A put that raises: a `CERError`, and at most the layout is new. -/
theorem FsStore.put_error {s : FsStore} {v w : Volume} {i j : Bool} {a : PutArgs}
    {u : UuidHex} {now : DateTime} {e : Exc}
    (h : s.put v i a u now = (.error e, w, j)) : e.isCer = true ∧
    (w = v ∧ j = i ∨ s.backing v i now = .ok w ∧ j = true) := by
  cases hc : s.checkPut a with
  | error x =>
    have hx : x.isCer = true := by
      unfold FsStore.checkPut at hc
      split at hc
      · cases hc
        rfl
      · split at hc
        · cases hc
          rfl
        · split at hc
          · cases hc
            rfl
          · split at hc
            · cases hc
            · split at hc
              · cases hc
                rfl
              · cases hc
    unfold FsStore.put at h
    rw [hc] at h
    cases h
    exact ⟨hx, Or.inl ⟨rfl, rfl⟩⟩
  | ok _ =>
    rw [FsStore.put_checked hc] at h
    split at h
    · next x hb =>
      cases h
      obtain ⟨_, _, rfl⟩ := FsStore.backing_error hb
      exact ⟨rfl, Or.inl ⟨rfl, rfl⟩⟩
    · next v₁ hb =>
      split at h
      · next x hs =>
        cases h
        obtain ⟨rfl, _⟩ := FsStore.storeBlob_error hs
        exact ⟨rfl, Or.inr ⟨hb, rfl⟩⟩
      · cases h

/-! ## Names of sidecars -/

/-- What `_safe_artifact_id` refuses. -/
def Hostile (artifactId : String) : Prop :=
  artifactId = "" ∨ '/' ∈ artifactId.toList ∨ Py.backslash ∈ artifactId.toList ∨
  artifactId = "." ∨ artifactId = ".."

theorem sidecarName_hostile {artifactId : String} (h : Hostile artifactId) :
    ∃ m, sidecarName artifactId = .error (ErrorClass.notFound.exc m) := by
  unfold sidecarName safeArtifactId
  rw [if_pos]
  · exact ⟨_, rfl⟩
  · rcases h with h | h | h | h | h <;> simp [h]

theorem sidecarName_safe {artifactId : String} (h : ¬ Hostile artifactId) :
    sidecarName artifactId = .ok (artifactId ++ ".json") := by
  unfold Hostile at h
  simp only [not_or] at h
  obtain ⟨h1, h2, h3, h4, h5⟩ := h
  unfold sidecarName safeArtifactId
  rw [if_neg]
  · rfl
  · simp [h1, h2, h3, h4, h5]

/-- `art_` and hexadecimal digits. -/
def IsArtHex (artifactId : String) : Prop :=
  ∃ t, artifactId = "art_" ++ t ∧ ∀ c ∈ t.toList, (Py.hexVal c).isSome = true

/-- The file name of such an identity is safe, and has no NUL in it. -/
theorem sidecarName_artHex {artifactId : String} (h : IsArtHex artifactId) :
    sidecarName artifactId = .ok (artifactId ++ ".json") ∧ Char.ofNat 0 ∉ (artifactId ++ ".json").toList := by
  obtain ⟨t, rfl, ht⟩ := h
  have hl : ("art_" ++ t).toList = ['a', 'r', 't', '_'] ++ t.toList := by
    rw [String.toList_append]
    rfl
  have hmem : ∀ c, Py.hexVal c = none → c ∉ ['a', 'r', 't', '_'] → c ∉ ("art_" ++ t).toList := by
    intro c hc hprefix hin
    rw [hl] at hin
    rcases List.mem_append.1 hin with hin | hin
    · exact hprefix hin
    · have hhex := ht c hin
      rw [hc] at hhex
      cases hhex
  have hne : ∀ x : String, x.toList.head? ≠ some 'a' → "art_" ++ t ≠ x := by
    intro x hx he
    rw [← he, hl] at hx
    exact hx rfl
  refine ⟨sidecarName_safe ?_, fun hnull => ?_⟩
  · rintro (h | h | h | h | h)
    · exact hne "" (by decide) h
    · exact hmem _ (by decide) (by decide) h
    · exact hmem _ (by decide) (by decide) h
    · exact hne "." (by decide) h
    · exact hne ".." (by decide) h
  · rw [String.toList_append] at hnull
    rcases List.mem_append.1 hnull with hnull | hnull
    · exact hmem _ (by decide) (by decide) hnull
    · revert hnull
      decide

theorem utf8Length_le (t : String) : utf8Length t ≤ 4 * t.length := by
  unfold utf8Length
  rw [← String.length_toList]
  induction t.toList with
  | nil => exact Nat.zero_le _
  | cons c l ih =>
    have hc := c.utf8Size_le_four
    rw [List.map_cons, List.sum_cons, List.length_cons]
    omega

theorem isArtHex_new (u : UuidHex) : IsArtHex (newArtifactId u) := by
  refine ⟨u.hex, rfl, fun c hc => ?_⟩
  have hhex := isTokenChar_of_isHexLower (List.all_eq_true.1 u.isHex c hc)
  unfold isTokenChar at hhex
  rw [Bool.or_eq_true, beq_iff_eq] at hhex
  rcases hhex with h | rfl
  · exact h
  · exact absurd (List.all_eq_true.1 u.isHex _ hc) (by decide)

/-- A minted identity names a file that can be opened. -/
theorem sidecarName_new (u : UuidHex) :
    sidecarName (newArtifactId u) = .ok (newArtifactId u ++ ".json") ∧
    refusedName (newArtifactId u ++ ".json") = none := by
  obtain ⟨hname, hnull⟩ := sidecarName_artHex (isArtHex_new u)
  have hlen : utf8Length (newArtifactId u ++ ".json") ≤ 4 * 41 := by
    refine (utf8Length_le _).trans ?_
    unfold newArtifactId
    rw [String.length_append, String.length_append, u.length_hex]
    exact Nat.le_refl _
  refine ⟨hname, ?_⟩
  unfold refusedName
  rw [if_neg (by simpa using hnull), if_neg (by omega)]

end Cer
