import Ployz.Corrosion.Stream

/-!
# Raw values of a response body

`NdjsonDecoder::next_raw` with the raw texts it returns. The reads of the body are given in turn,
a read of no bytes being its end; a call that needs one more read waits.
-/

namespace Ployz.Corrosion

/-- `RawValue`: the bytes of its text. -/
abbrev RawValue := List UInt8

/-- What a call of `next_raw` returns, unless the body has to be read. -/
def Poll.result : Poll RawValue → Option (Except ClientError (Option RawValue))
  | .value raw => some (.ok (some raw))
  | .ended => some (.ok none)
  | .failed error => some (.error error)
  | .waits => none

namespace NdjsonDecoder

variable (next : Deserializer RawValue)

/-- `NdjsonDecoder::next_raw`, with the decoder and the reads it leaves. -/
def nextRaw (self : NdjsonDecoder) (reads : List (List UInt8)) :
    Option (Except ClientError (Option RawValue) × NdjsonDecoder × List (List UInt8)) :=
  match (self.poll next).1.result, reads with
  | some result, reads => some (result, (self.poll next).2, reads)
  | none, [] => none
  | none, chunk :: reads => nextRaw ((self.poll next).2.feed chunk) reads

/-- The results of so many calls, one after another. -/
def calls : Nat → NdjsonDecoder → List (List UInt8) →
    Option (List (Except ClientError (Option RawValue)))
  | 0, _, _ => some []
  | count + 1, self, reads => do
    let (result, after, left) ← self.nextRaw next reads
    let results ← calls count after left
    return result :: results

end NdjsonDecoder

end Ployz.Corrosion
