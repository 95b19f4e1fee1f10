/-! Fingerprints of metric descriptions and label sets: the 64-bit FNV-1a hash of a byte string.

The exposition registry never compares names or label values directly; it compares these
fingerprints:

* a descriptor's id hashes its name and its constant label values, each followed by the
  separator byte `0xFF`;
* a descriptor's dimensions hash its help text and its sorted label names, each followed by the
  separator;
* a label set of an instrument hashes its values' bytes one after another with no separator, so
  two label sets whose values join to the same text are one label set (`labelSetKey_eq_of_join`).

All arithmetic is on 64-bit words and wraps. -/
namespace Sidecar.Metrics

def fnvOffset : UInt64 := 0xcbf29ce484222325

def fnvPrime : UInt64 := 0x100000001b3

def absorb (h : UInt64) (b : UInt8) : UInt64 := (h ^^^ b.toUInt64) * fnvPrime

/-- Mixes a byte string into a hash state, first byte first. -/
def absorbBytes (h : UInt64) (bs : List UInt8) : UInt64 := bs.foldl absorb h

def fnv (bs : List UInt8) : UInt64 := absorbBytes fnvOffset bs

/-- The byte that ends each field of an id or dimension message. -/
def separator : UInt8 := 0xFF

def textBytes (s : String) : List UInt8 := s.toUTF8.data.toList

def fieldBytes (fields : List String) : List UInt8 :=
  fields.flatMap fun f => textBytes f ++ [separator]

/-- The id of a descriptor: its name, then its constant label values in the order of their
label names. -/
def descriptorId (name : String) (constValues : List String) : UInt64 :=
  fnv (fieldBytes (name :: constValues))

/-- Byte order of texts; UTF-8 keeps the order of code points. -/
def textLe (a b : String) : Bool := decide (a ≤ b)

/-- The dimensions of a descriptor: its help text, then every label name in order, the constant
ones as they are and the variable ones behind a dollar sign, so that the two cannot be mixed up. -/
def dimensionHash (help : String) (constNames variableNames : List String) : UInt64 :=
  let names := (constNames ++ variableNames.map ("$" ++ ·)).mergeSort textLe
  fnv (fieldBytes (help :: names))

/-- The key of a label set: its values' bytes joined with no separator. -/
def labelSetKey (values : List String) : UInt64 := fnv (values.flatMap textBytes)

@[simp]
theorem absorbBytes_nil (h : UInt64) : absorbBytes h [] = h := rfl

@[simp]
theorem absorbBytes_cons (h : UInt64) (b : UInt8) (bs : List UInt8) :
    absorbBytes h (b :: bs) = absorbBytes (absorb h b) bs := rfl

/-- Hashing a message in two pieces is hashing the first, then going on with the second. -/
theorem absorbBytes_append (h : UInt64) (xs ys : List UInt8) :
    absorbBytes h (xs ++ ys) = absorbBytes (absorbBytes h xs) ys := by
  simp [absorbBytes, List.foldl_append]

/-- The bytes of two texts one after the other are the bytes of the appended text. -/
theorem textBytes_append (a b : String) : textBytes (a ++ b) = textBytes a ++ textBytes b := by
  unfold textBytes
  rw [show (a ++ b).toUTF8 = a.toUTF8 ++ b.toUTF8 from ByteArray.ext rfl]
  simp

/-- The bytes of a list of texts, joined, are the bytes of the joined text. -/
theorem flatMap_textBytes (values : List String) :
    values.flatMap textBytes = textBytes (String.join values) := by
  induction values with
  | nil => simp [textBytes]
  | cons v vs ih =>
    simp only [List.flatMap_cons, ih, String.join_cons, textBytes_append]

/-- A label set's key depends only on the text its values join to. -/
theorem labelSetKey_eq_of_join (vs ws : List String)
    (h : String.join vs = String.join ws) : labelSetKey vs = labelSetKey ws := by
  simp only [labelSetKey, flatMap_textBytes, h]

end Sidecar.Metrics
