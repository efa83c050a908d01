/-!
# Sentence kinds

A sentence begins with a token that tells its kind. Where one token continues another the longer
one comes first.
-/

namespace NavStream.Sentence

/-- The kinds of sentences. -/
inductive Kind where
  /-- An integrated navigation sentence with the extended fields. -/
  | gpchcx
  /-- An integrated navigation sentence. -/
  | gpchc
  /-- A position sentence, which is only forwarded. -/
  | gpgga
deriving DecidableEq, Repr

namespace Kind

/-- Every kind, in the order in which tokens are tried. -/
def all : List Kind := [gpchcx, gpchc, gpgga]

/-- The name of a kind. -/
def name : Kind → String
  | gpchcx => "Gpchcx"
  | gpchc => "Gpchc"
  | gpgga => "Gpgga"

/-- The text that a sentence of the kind begins with. -/
def header : Kind → String
  | gpchcx => "$GPCHCX"
  | gpchc => "$GPCHC"
  | gpgga => "$GPGGA"

/-- The bytes that a sentence of the kind begins with. -/
def token : Kind → List UInt8
  | gpchcx => [36, 71, 80, 67, 72, 67, 88]
  | gpchc => [36, 71, 80, 67, 72, 67]
  | gpgga => [36, 71, 80, 71, 71, 65]

/-- The token is the header's text, byte for byte. -/
theorem token_eq (kind : Kind) : kind.token = kind.header.toUTF8.data.toList := by
  cases kind <;> decide

end Kind

end NavStream.Sentence
