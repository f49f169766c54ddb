import Cer.Artifacts.FsStore
import Cer.Lib.FloatText

/-!
# A sidecar's text

The record's JSON on one line in UTF-8, read back field by field and validated.  It is
an instance of what `FsStore` asks of the encoding (`FsStore.reference`), for the runs
that fix every parameter.
-/

namespace Cer

open Py

def decodeUtf8 (b : Bytes) : Option String := String.fromUTF8? ⟨b.toArray⟩

theorem decodeUtf8_encodeUtf8 (t : String) : decodeUtf8 (encodeUtf8 t) = some t := by
  unfold decodeUtf8 encodeUtf8
  have harr : (⟨t.toUTF8.data.toList.toArray⟩ : ByteArray) = t.toByteArray := rfl
  rw [harr]
  unfold String.fromUTF8?
  rw [dif_pos t.isValidUTF8]
  rfl

def sidecarText (r : ArtifactRecord) : String := String.ofList (Py.write FloatText.exact (.obj r.dump))

def textField (k : String) (kvs : List (String × Json)) : Option String :=
  match Json.field k kvs with
  | some (.str t) => some t
  | _ => none

def intField (k : String) (kvs : List (String × Json)) : Option Int :=
  match Json.field k kvs with
  | some (.int n) => some n
  | _ => none

def optTextField (k : String) (kvs : List (String × Json)) : Option (Option String) :=
  match Json.field k kvs with
  | some (.str t) => some (some t)
  | some .null => some none
  | _ => none

/-- A UTC time as JSON has it. -/
def timeOfJsonText (t : String) : Option DateTime :=
  match readStamp t.toList with
  | some (time, rest) => if rest = ['Z'] then some time else none
  | none => none

theorem timeOfJsonText_jsonText (t : DateTime) : timeOfJsonText (jsonText t) = some t := by
  unfold timeOfJsonText jsonText
  rw [String.toList_ofList, readStamp_stamp t ['Z'] (by decide)]
  rfl

def recordOfFields (kvs : List (String × Json)) : Option ArtifactRecord := do
  let record : ArtifactRecord :=
    { artifactId := ← textField "artifact_id" kvs, sha256 := ← textField "sha256" kvs
      sizeBytes := ← intField "size_bytes" kvs, contentType := ← textField "content_type" kvs
      filename := ← textField "filename" kvs, uri := ← textField "uri" kvs
      registeredAt := ← timeOfJsonText (← textField "registered_at" kvs)
      runId := ← optTextField "run_id" kvs, evidenceId := ← optTextField "evidence_id" kvs }
  record.construct.toOption

def recordOfText (text : String) : Option ArtifactRecord :=
  match loads FloatText.exact text with
  | some (.obj kvs) => recordOfFields kvs
  | _ => none

def readSidecar (b : Bytes) : Option ArtifactRecord := (decodeUtf8 b).bind recordOfText

theorem optTextField_optStr (k : String) (o : Option String) {kvs : List (String × Json)}
    (h : Json.field k kvs = some (optStr o)) : optTextField k kvs = some o := by
  unfold optTextField
  rw [h]
  cases o <;> rfl

theorem recordOfFields_dump (r : ArtifactRecord) (h : r.Valid) : recordOfFields r.dump = some r := by
  have hrun : optTextField "run_id" r.dump = some r.runId := optTextField_optStr _ _ rfl
  have hev : optTextField "evidence_id" r.dump = some r.evidenceId := optTextField_optStr _ _ rfl
  have htime : textField "registered_at" r.dump = some (jsonText r.registeredAt) := rfl
  have hc : r.construct.toOption = some r := by rw [h]; rfl
  unfold recordOfFields
  rw [hrun, hev, htime]
  have hid : textField "artifact_id" r.dump = some r.artifactId := rfl
  have hsha : textField "sha256" r.dump = some r.sha256 := rfl
  have hsize : intField "size_bytes" r.dump = some r.sizeBytes := rfl
  have htype : textField "content_type" r.dump = some r.contentType := rfl
  have hname : textField "filename" r.dump = some r.filename := rfl
  have huri : textField "uri" r.dump = some r.uri := rfl
  rw [hid, hsha, hsize, htype, hname, huri]
  simp only [Option.bind_eq_bind, Option.bind_some, timeOfJsonText_jsonText]
  exact hc

theorem loads_sidecarText (r : ArtifactRecord) : loads FloatText.exact (sidecarText r) = some (.obj r.dump) := by
  have hopt : ∀ o : Option String, nodupKeys (optStr o) = true := fun o => by cases o <;> rfl
  refine loads_write FloatText.exact (.obj r.dump) ?_
  unfold nodupKeys ArtifactRecord.dump
  simp only [nodupKeysFields, nodupKeys, hopt, Bool.and_self, Bool.and_true, decide_eq_true_eq, List.map_cons,
    List.map_nil]
  decide

theorem readSidecar_sidecarText (r : ArtifactRecord) (h : r.Valid) :
    readSidecar (encodeUtf8 (sidecarText r)) = some r := by
  have hread : recordOfText (sidecarText r) = some r := by
    unfold recordOfText
    rw [loads_sidecarText r]
    exact recordOfFields_dump r h
  unfold readSidecar
  rw [decodeUtf8_encodeUtf8, Option.bind_some]
  exact hread

/-- A store under `/data/artifacts`. -/
def FsStore.reference (env : Env) : FsStore where
  env := env
  rootPath := "/data/artifacts"
  rootUri := "file:///data/artifacts"
  maxBytes := 1048576
  encode r := encodeUtf8 (sidecarText r)
  decode := readSidecar
  decode_encode := readSidecar_sidecarText

end Cer
