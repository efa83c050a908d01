import NavStream.Message.Text
import NavStream.Proofs.Json.Rereading

/-!
# Messages are read again from their JSON

The text of a message is read as the same message, provided that its floating-point numbers are
restored one by one. A number that is not finite is written as null, and then the text does not
describe a message.

* `readText_compact` — the text of a datum is read by its shape;
* `Message.ofJson_toJson` — writing and reading messages.
-/

namespace NavStream

namespace Json

/-- The text of a datum is read by its shape: as the datum if its numbers are restored, and as no
datum of the shape if one of them is not finite. -/
theorem readText_compact {d : Datum} {shape : Shape} (fits : d.fits shape = true)
    (regular : shape.regular = true) :
    ((∀ x ∈ d.floats, x.Restored) → readText shape (compact d).toUTF8.toList = .ok d) ∧
      ((∃ x ∈ d.floats, x.isFinite = false) → ∃ error : Error,
        readText shape (compact d).toUTF8.toList = .error error ∧
          error.cause.category = .content) := by
  have hread := reread_field d .required shape [] (by simpa [Datum.fitsField] using fits) (by simp)
    regular .nil
  have hrest := (Value.ofDatum d).rest?_node .nil
  have htext : readText shape (compact d).toUTF8.toList =
      (read .direct ((Value.ofDatum d).node []) shape).mapError
        (Error.ofFailure ((Value.ofDatum d).before [])) := by
    rw [toUTF8_compact, readText]
    simp only [Value.parse_before, hrest, Option.map_some, skipBlanks, List.dropWhile_nil]
    rw [bind_pure]
  rw [htext]
  generalize read .direct ((Value.ofDatum d).node []) shape = result at hread
  cases hread with
  | ok a finite same =>
    refine ⟨fun restored => by rw [same restored]; rfl, ?_⟩
    rintro ⟨x, hx, undefined⟩
    rw [finite x hx] at undefined
    cases undefined
  | error failure undefined content =>
    refine ⟨fun restored => ?_, fun _ => ⟨_, rfl, content⟩⟩
    obtain ⟨x, hx, undefined⟩ := undefined
    rw [(restored x hx).isFinite] at undefined
    cases undefined

end Json

namespace Message

/-- The shape of messages is regular. -/
theorem regular_shape : Codecs.message.shape.regular = true := by decide +kernel

/-- A message whose floating-point numbers are restored one by one is read from its text. -/
theorem ofJson_of_restored (m : Message) (restored : ∀ x ∈ m.toDatum.floats, x.Restored) :
    ofJson m.toJson = .ok m := by
  have hread := (Json.readText_compact (Codecs.message.fits m) regular_shape).1 restored
  rw [ofJson, Json.decode, toJson, toDatum, hread, Json.ok_bind, Codecs.message.ofDatum?_toDatum]
  rfl

/-- A message whose floating-point numbers are restored one by one is read from its text. If any of
them is not finite, the text is the one with nothing in the place of such numbers, and it does not
describe a message. -/
theorem ofJson_toJson (m : Message) :
    ((∀ x ∈ m.toDatum.floats, x.Restored) → ofJson m.toJson = .ok m) ∧
      ((∃ x ∈ m.toDatum.floats, x.isFinite = false) →
        (m.toJson = Json.compact m.toDatum.masked ∧
          m.toDatum.masked.floats = m.toDatum.floats.filter (·.isFinite)) ∧
        ∃ error : Json.Error, ofJson m.toJson = .error error ∧
          error.cause.category = .content) := by
  refine ⟨m.ofJson_of_restored, fun undefined =>
    ⟨⟨(Json.compact_masked _).symm, Datum.floats_masked _⟩, ?_⟩⟩
  obtain ⟨error, hread, content⟩ :=
    (Json.readText_compact (Codecs.message.fits m) regular_shape).2 undefined
  refine ⟨error, ?_, content⟩
  rw [ofJson, Json.decode, toJson, toDatum, hread]
  rfl

/-- A solution without motion, whose covariance is `covariance` throughout. -/
def atRest (covariance : Float) : Message := .ins {
  measurementTime := 0.5
  position := ⟨52.25, -13.5, 0.1⟩
  eulerAngles := ⟨1e22, 1e-7, -0.0⟩
  linearVelocity := .zero
  angularVelocity := some .zero
  linearAcceleration := none
  positionCovariance := some (Vector.replicate 9 covariance)
  eulerAnglesCovariance := none
  linearVelocityCovariance := none
  insType := .good }

/-- A solution is read again with a covariance of a quarter, and not with an undefined one. -/
theorem ofJson_toJson_atRest :
    ((∀ x ∈ (atRest 0.25).toDatum.floats, x.Restored) ∧
      ofJson (atRest 0.25).toJson = .ok (atRest 0.25)) ∧
    ((∃ x ∈ (atRest (0.0 / 0.0)).toDatum.floats, x.isFinite = false) ∧
      ∃ error : Json.Error, ofJson (atRest (0.0 / 0.0)).toJson = .error error ∧
        error.cause.category = .content) := by
  have hrestored : ∀ x ∈ (atRest 0.25).toDatum.floats, x.Restored := by decide +kernel
  have hundefined : ∃ x ∈ (atRest (0.0 / 0.0)).toDatum.floats, x.isFinite = false := by
    decide +kernel
  exact ⟨⟨hrestored, (ofJson_toJson _).1 hrestored⟩,
    ⟨hundefined, ((ofJson_toJson _).2 hundefined).2⟩⟩

end Message

end NavStream
