import Cer.Lib.JsonRoundTrip

/-!
# JSON between two processes

A body is rendered by one process and parsed by the other, each with a library of its own.
What can be relied on is JSON itself: a value without NaN and infinities whose mappings have
distinct keys arrives as it was sent, and one with a NaN or an infinity is not rendered.
-/

namespace Py

/-- A rendering that may refuse a value, and a parser. -/
structure JsonWire where
  render : Json → Option String
  parse : String → Option Json
  parse_render : ∀ j, nodupKeys j = true → isFinite j = true → ∃ text, render j = some text ∧ parse text = some j
  render_none : ∀ j, isFinite j = false → render j = none

/-- Compact texts: `json.dumps(j, allow_nan=False, separators=(",", ":"))` and `json.loads`. -/
def JsonWire.compact (ft : FloatText) : JsonWire where
  render j := if isFinite j then some (String.ofList (write ft j)) else none
  parse := loads ft
  parse_render j hkeys hfinite := ⟨_, if_pos hfinite, loads_write ft j hkeys⟩
  render_none j h := by
    rw [h]
    exact if_neg Bool.noConfusion

end Py
