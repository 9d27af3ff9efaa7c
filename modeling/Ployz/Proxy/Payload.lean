import Ployz.Base.Varint
import Ployz.Proxy.Mapper

/-!
# Machine information in responses

The proxy appends to every response which machine it is from. A streamed response is a message to
which a further field is appended. A unary response holds its message as its first field, so the
field's length is rewritten. As protobuf prescribes, fields are written by ascending number and
empty strings left out.
-/

namespace Ployz.Proxy

/-- The bytes of a string. -/
def utf8Bytes (value : String) : List UInt8 := value.toUTF8.data.toList

/-- The key of a length-delimited field. -/
def fieldKey (number : Nat) : Nat := number * 8 + 2

/-- A string field of a protobuf message. -/
def stringField (number : Nat) (value : String) : List UInt8 :=
  if value = "" then [] else Varint.field (fieldKey number) (utf8Bytes value)

/-- A message field of a protobuf message, from the bytes of the message. -/
def messageField (number : Nat) : Option (List UInt8) → List UInt8
  | none => []
  | some message => Varint.field (fieldKey number) message

/-- `pb::Metadata`; the status is its bytes. -/
structure MachineMetadata where
  machineId : String
  machineName : String
  machineAddr : String
  error : String
  status : Option (List UInt8)
deriving DecidableEq, Repr

/-- `Metadata::encode_to_vec`. -/
def MachineMetadata.encode (metadata : MachineMetadata) : List UInt8 :=
  stringField 1 metadata.machineAddr ++ stringField 2 metadata.error ++
    messageField 3 metadata.status ++ stringField 4 metadata.machineId ++
    stringField 5 metadata.machineName

/-- `Empty { metadata: Some(metadata) }.encode_to_vec()`. -/
def encodeEmpty (metadata : MachineMetadata) : List UInt8 := messageField 1 (some metadata.encode)

def machineMetadata (machine : MachineTarget) (error : String) (status : Option (List UInt8)) :
    Except String MachineMetadata :=
  if machine.addressIsUtf8 then .ok ⟨machine.id, machine.name, machine.address, error, status⟩
  else .error "string field contains invalid UTF-8"

/-- The loop of `consume_varint` from an index on. -/
def consumeVarintFrom (index : Nat) (value : UInt64) : List UInt8 → Except String (UInt64 × Nat)
  | [] => .error "unexpected EOF"
  | byte :: bytes =>
    if index = 10 then .error "unexpected EOF"
    else if index = 9 ∧ byte > 1 then .error "variable length integer overflow"
    else
      let value := value ||| ((byte &&& 0x7f).toUInt64 <<< UInt64.ofNat (index * 7))
      if byte < 0x80 then .ok (value, index + 1)
      else consumeVarintFrom (index + 1) value bytes

/-- `consume_varint`: the value and the number of its bytes. -/
def consumeVarint (bytes : List UInt8) : Except String (UInt64 × Nat) := consumeVarintFrom 0 0 bytes

theorem toNat_shiftRight_seven (value : UInt64) : (value >>> 7).toNat = value.toNat / 128 := by
  rw [UInt64.toNat_shiftRight]
  exact Nat.shiftRight_eq_div_pow _ _

def encodeVarint (value : UInt64) : List UInt8 :=
  if large : value ≥ 0x80 then
    have : (value >>> 7).toNat < value.toNat := by
      have bound : 128 ≤ value.toNat := large
      rw [toNat_shiftRight_seven]
      omega
    (value.toUInt8 ||| 0x80) :: encodeVarint (value >>> 7)
  else [value.toUInt8]
termination_by value.toNat

def appendMachineInfo (machine : MachineTarget) (streaming : Bool) (response : List UInt8) :
    Except String (List UInt8) := do
  let payload := encodeEmpty (← machineMetadata machine "" none)
  if streaming then pure (response ++ payload)
  else
    let (tag, tagLen) ← consumeVarint response
    let (_, lengthLen) ← consumeVarint (response.drop tagLen)
    if tag ≠ 10 then .error s!"unexpected message format: {tag}"
    else if tagLen + lengthLen > response.length then
      .error s!"unexpected message size: {response.length}"
    else
      let embedded := response.drop (tagLen + lengthLen)
      pure (encodeVarint 10 ++ encodeVarint (UInt64.ofNat (embedded.length + payload.length)) ++
        embedded ++ payload)

end Ployz.Proxy
