import WalletResponder.Url.Percent

/-!
# Form parameters

A list of names and values, in order and with repetitions, and its text `name=value&name=value` with
both sides percent-encoded. Reading skips one `?` or `#` in front and empty parts; a part without an
equals sign is a name with an empty value. `FormParameters.write` and `FormParameters.read` convert
names and values within the limits of the library.
-/

namespace WalletResponder

/-- Names and values in order. -/
abbrev FormParameters := List (Bytes × Bytes)

namespace FormParameters

/-- One parameter. -/
def encodePair (p : Bytes × Bytes) : Bytes := Percent.encode p.1 ++ 0x3d :: Percent.encode p.2

/-- The text of the parameters. -/
def encode : FormParameters → Bytes
  | [] => []
  | [p] => encodePair p
  | p :: q :: rest => encodePair p ++ 0x26 :: encode (q :: rest)

/-- The parameter that a part between ampersands writes. -/
def decodePair (part : Bytes) : Bytes × Bytes :=
  (Percent.decode (part.upTo 0x3d), Percent.decode ((part.after? 0x3d).getD []))

/-- Drops one `?` or `#` in front. -/
def dropMark : Bytes → Bytes
  | [] => []
  | c :: r => if c == 0x3f || c == 0x23 then r else c :: r

/-- The parts of a text that write a parameter each. -/
def parts (s : Bytes) : List Bytes := ((dropMark s).splitOn 0x26).filter (!·.isEmpty)

/-- Reads parameters from a text. -/
def parse (s : Bytes) : FormParameters := (parts s).map decodePair

/-- The value of the first parameter called `name`. -/
def value? (name : Bytes) (params : FormParameters) : Option Bytes :=
  (List.find? (fun p => p.1 == name) params).map (·.2)

/-! ## Within the limits of the library -/

/-- One parameter, unless a side of it is too long. -/
def writePair (p : Bytes × Bytes) : Except Percent.Fault Bytes := do
  return (← Percent.write p.1) ++ 0x3d :: (← Percent.write p.2)

/-- The text of the parameters, unless one of them is too long. -/
def write : FormParameters → Except Percent.Fault Bytes
  | [] => .ok []
  | [p] => writePair p
  | p :: q :: rest => do return (← writePair p) ++ 0x26 :: (← write (q :: rest))

/-- The parameter that a part between ampersands writes, unless a side of it is too long. -/
def readPair (part : Bytes) : Except Percent.Fault (Bytes × Bytes) := do
  return (← Percent.read (part.upTo 0x3d), ← Percent.read ((part.after? 0x3d).getD []))

/-- Reads parameters from a text, unless one of them is too long. -/
def read (s : Bytes) : Except Percent.Fault FormParameters := (parts s).mapM readPair

end FormParameters
end WalletResponder
