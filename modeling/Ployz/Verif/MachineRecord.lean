import Ployz.Base.Base64
import Ployz.Store.Machine

/-!
# Round trip of machine records

A member of a sparse object is found by its name as long as no other member has one of the names
it is looked up by, and a member that was skipped reads as the value it was skipped for. So every
message is read back from its JSON form, and the machine from its text.
-/

namespace Ployz.Store

open Api Json List

/-- What is assumed of the JSON crate: the text of a machine is read as the value it was written
for. -/
def SerdeJson.Lossless (serde : SerdeJson) (base64 : Base64) : Prop :=
  ∀ machine, serde.parse (encodeMachine base64 machine) = .ok (machineJson base64 machine)

/-- What is assumed of the base64 crate. -/
structure Base64.Lossless (base64 : Base64) : Prop where
  decode_encode : ∀ bytes, base64.decodeStandard (base64.encode bytes) = some bytes
  encode_nil : base64.encode [] = ""
  encode_unbroken : ∀ bytes, '\r' ∉ (base64.encode bytes).toList ∧
    '\n' ∉ (base64.encode bytes).toList

section Lookup

variable {fields : List (String × Option Json)} {jsonName protoName : String}

theorem sparseMembers_cons (name : String) (value : Option Json) :
    sparseMembers ((name, value) :: fields) =
      (value.map (name, ·)).toList ++ sparseMembers fields := by
  cases value <;> rfl

theorem findField_of_notMem (json : jsonName ∉ fields.map Prod.fst)
    (proto : protoName ∉ fields.map Prod.fst) (found : Option Json) :
    findField jsonName protoName found (sparseMembers fields) = .ok found := by
  induction fields with
  | nil => rfl
  | cons field fields ih =>
    obtain ⟨name, value⟩ := field
    simp only [map_cons, mem_cons, not_or] at json proto
    have other : ¬ (name = jsonName ∨ name = protoName) := fun same =>
      same.elim (fun same => json.1 same.symm) fun same => proto.1 same.symm
    have later := ih json.2 proto.2
    cases value with
    | none => exact later
    | some value =>
      rw [sparseMembers_cons, Option.map_some, Option.toList_some, singleton_append,
        findField, if_neg other]
      exact later

/-- The fields of a struct: their names are distinct, and one of them is looked up by its own name
and perhaps another one that no field has. -/
structure Names (fields : List (String × Option Json)) (jsonName protoName : String) : Prop where
  distinct : (fields.map Prod.fst).Nodup
  unaliased : protoName = jsonName ∨ protoName ∉ fields.map Prod.fst

theorem protobufField_sparse (names : Names fields jsonName protoName) {value : Option Json}
    (member : (jsonName, value) ∈ fields) :
    protobufField (sparseMembers fields) jsonName protoName = .ok value := by
  rw [protobufField]
  induction fields with
  | nil => exact absurd member not_mem_nil
  | cons field fields ih =>
    obtain ⟨name, first⟩ := field
    obtain ⟨fresh, distinct⟩ := nodup_cons.mp names.distinct
    have unaliased : protoName = jsonName ∨ protoName ∉ fields.map Prod.fst :=
      names.unaliased.imp_right fun absent inside => absent (mem_cons_of_mem _ inside)
    rcases mem_cons.mp member with same | later
    · obtain ⟨rfl, rfl⟩ := Prod.mk.inj same
      have proto : protoName ∉ fields.map Prod.fst :=
        unaliased.elim (fun same => same ▸ fresh) id
      cases value with
      | none => exact findField_of_notMem fresh proto none
      | some value =>
        rw [sparseMembers_cons, Option.map_some, Option.toList_some, singleton_append,
          findField, if_pos (.inl rfl)]
        exact findField_of_notMem fresh proto (some value)
    · have inside : jsonName ∈ fields.map Prod.fst := mem_map.mpr ⟨_, later, rfl⟩
      have other : ¬ (name = jsonName ∨ name = protoName) := by
        rintro (rfl | rfl)
        · exact fresh inside
        · refine names.unaliased.elim (fun same => fresh (same ▸ inside)) fun absent => ?_
          exact absent mem_cons_self
      have rest := ih ⟨distinct, unaliased⟩ later
      cases first with
      | none => exact rest
      | some first =>
        rw [sparseMembers_cons, Option.map_some, Option.toList_some, singleton_append,
          findField, if_neg other]
        exact rest

end Lookup

variable {α : Type}

section Fields

variable {serde : SerdeJson} {base64 : Base64} {fields : List (String × Option Json)}
  {jsonName protoName : String} (names : Names fields jsonName protoName)

include names

theorem stringField_sparse (value : String) (member : (jsonName, textValue value) ∈ fields) :
    stringField serde (sparseMembers fields) jsonName protoName = .ok value := by
  rw [stringField, protobufField_sparse names member]
  by_cases empty : value = ""
  · rw [textValue, if_pos empty, empty]
    rfl
  · rw [textValue, if_neg empty]
    rfl

theorem bytesField_sparse (lossless : base64.Lossless) (bytes : List UInt8)
    (member : (jsonName, textValue (base64.encode bytes)) ∈ fields) :
    bytesField serde base64 (sparseMembers fields) jsonName protoName = .ok bytes := by
  rw [bytesField, stringField_sparse names _ member]
  change readBytes base64 jsonName (base64.encode bytes) = .ok bytes
  by_cases empty : base64.encode bytes = ""
  · -- Only the empty list has the empty text.
    have decoded := lossless.decode_encode bytes
    rw [empty, ← lossless.encode_nil, lossless.decode_encode] at decoded
    rw [readBytes, if_pos empty, Option.some.inj decoded]
  · have unbroken : (base64.encode bytes).toList.filter (fun c => c != '\r' && c != '\n') =
        (base64.encode bytes).toList := by
      rw [filter_eq_self]
      intro c inside
      obtain ⟨carriage, line⟩ := lossless.encode_unbroken bytes
      have other : c ≠ '\r' ∧ c ≠ '\n' :=
        ⟨fun same => carriage (same ▸ inside), fun same => line (same ▸ inside)⟩
      simp [other]
    rw [readBytes, if_neg empty, unbroken, String.ofList_toList]
    simp only [lossless.decode_encode bytes, Option.some_or]

theorem u32Field_sparse {value : Nat} (fits : value < 2 ^ 32)
    (member : (jsonName, numberValue value) ∈ fields) :
    u32Field serde (sparseMembers fields) jsonName protoName = .ok value := by
  rw [u32Field, protobufField_sparse names member]
  by_cases zero : value = 0
  · rw [numberValue, if_pos zero, zero]
    rfl
  · rw [numberValue, if_neg zero]
    have read := unsigned_nat fits
    simp only [bind, Except.bind, Json.nat, readU32] at read ⊢
    rw [read]

theorem messageField_sparse {decode : Json → Except String α} (write : α → Json)
    {message : Option α} (member : (jsonName, message.map write) ∈ fields)
    (object : ∀ value, ∃ members, write value = .obj members)
    (decodes : ∀ value ∈ message, decode (write value) = .ok value) :
    messageField (sparseMembers fields) jsonName protoName decode = .ok message := by
  rw [messageField, protobufField_sparse names member]
  cases message with
  | none => rfl
  | some value =>
    obtain ⟨members, written⟩ := object value
    have decoded := decodes value rfl
    rw [written] at decoded
    simp only [Option.map_some, written, bind, Except.bind, readMessage, decoded, Except.map]

end Fields

/-- The numbers of a network are in the range of their 32-bit types. -/
structure InRange (network : NetworkConfig) : Prop where
  bits : ∀ subnet ∈ network.subnet, subnet.bits < 2 ^ 32
  ports : ∀ port ∈ network.endpoints, port.port < 2 ^ 32

section Messages

variable {serde : SerdeJson} {base64 : Base64} (lossless : base64.Lossless)

include lossless

theorem decodeIp_ipJson (ip : Ip) : decodeIp serde base64 (ipJson base64 ip) = .ok ip := by
  have names : Names [("ip", textValue (base64.encode ip.ip))] "ip" "ip" :=
    ⟨by simp, .inl rfl⟩
  rw [decodeIp, ipJson]
  simp only [parseObject, bind, Except.bind]
  rw [bytesField_sparse names lossless _ mem_cons_self]
  rfl

theorem ipField_sparse {fields : List (String × Option Json)} {jsonName protoName : String}
    (names : Names fields jsonName protoName) {ip : Option Ip}
    (member : (jsonName, ip.map (ipJson base64)) ∈ fields) :
    messageField (sparseMembers fields) jsonName protoName (decodeIp serde base64) = .ok ip :=
  messageField_sparse names (ipJson base64) member (fun _ => ⟨_, rfl⟩) fun ip _ => decodeIp_ipJson lossless ip

theorem decodePrefix_prefixJson (subnet : PbIpPrefix) (fits : subnet.bits < 2 ^ 32) :
    decodePrefix serde base64 (prefixJson base64 subnet) = .ok subnet := by
  rw [decodePrefix, prefixJson]
  simp only [parseObject, bind, Except.bind]
  rw [ipField_sparse lossless ⟨by simp, .inl rfl⟩ mem_cons_self]
  simp only
  rw [u32Field_sparse ⟨by simp, .inl rfl⟩ fits (by simp)]
  rfl

theorem decodePort_portJson (port : IpPort) (fits : port.port < 2 ^ 32) :
    decodePort serde base64 (portJson base64 port) = .ok port := by
  rw [decodePort, portJson]
  simp only [parseObject, bind, Except.bind]
  rw [ipField_sparse lossless ⟨by simp, .inl rfl⟩ mem_cons_self]
  simp only
  rw [u32Field_sparse ⟨by simp, .inl rfl⟩ fits (by simp)]
  rfl

theorem readEndpoints_listValue (endpoints : List IpPort)
    (fits : ∀ port ∈ endpoints, port.port < 2 ^ 32) :
    readEndpoints serde base64 (listValue (portJson base64) endpoints) = .ok endpoints := by
  have all : (endpoints.map (portJson base64)).mapM (decodePort serde base64) =
      .ok endpoints := by
    induction endpoints with
    | nil => rfl
    | cons port endpoints ih =>
      rw [map_cons, mapM_cons, decodePort_portJson lossless port (fits port (by simp)),
        ih fun other member => fits other (mem_cons_of_mem _ member)]
      rfl
  by_cases empty : endpoints = []
  · rw [listValue, if_pos empty, empty]
    rfl
  · rw [listValue, if_neg empty]
    exact all

theorem decodeNetwork_networkJson (network : NetworkConfig) (fits : InRange network) :
    decodeNetwork serde base64 (networkJson base64 network) = .ok network := by
  rw [decodeNetwork, networkJson]
  simp only [parseObject, bind, Except.bind]
  rw [protobufField_sparse ⟨by simp, .inl rfl⟩
    (mem_cons_of_mem _ (mem_cons_of_mem _ mem_cons_self))]
  simp only
  rw [readEndpoints_listValue lossless network.endpoints fits.ports]
  simp only
  rw [messageField_sparse ⟨by simp, .inl rfl⟩ (prefixJson base64) mem_cons_self
    (fun _ => ⟨_, rfl⟩)
    fun subnet member => decodePrefix_prefixJson lossless subnet (fits.bits subnet member)]
  simp only
  rw [ipField_sparse lossless ⟨by simp, by simp⟩ (mem_cons_of_mem _ mem_cons_self)]
  simp only
  rw [bytesField_sparse ⟨by simp, by simp⟩ lossless network.publicKey (by simp)]
  rfl

theorem decode_machineJson (machine : MachineInfo)
    (fits : ∀ network ∈ machine.network, InRange network) {json : String}
    (read : serde.parse json = .ok (machineJson base64 machine)) :
    decodeMachine serde base64 json = .ok machine := by
  rw [decodeMachine, read]
  simp only [machineJson, Except.mapError, parseObject, bind, Except.bind]
  rw [stringField_sparse ⟨by simp, .inl rfl⟩ machine.id (by simp)]
  simp only
  rw [stringField_sparse ⟨by simp, .inl rfl⟩ machine.name (by simp)]
  simp only
  rw [messageField_sparse ⟨by simp, .inl rfl⟩ (networkJson base64)
    (mem_cons_of_mem _ (mem_cons_of_mem _ mem_cons_self)) (fun _ => ⟨_, rfl⟩)
    fun network member => decodeNetwork_networkJson lossless network (fits network member)]
  simp only
  rw [ipField_sparse lossless ⟨by simp, by simp⟩ (mem_cons_of_mem _
    (mem_cons_of_mem _ (mem_cons_of_mem _ mem_cons_self)))]
  simp only
  rw [stringField_sparse ⟨by simp, by simp⟩ machine.daemonVersion (by simp)]
  simp only
  rw [stringField_sparse ⟨by simp, by simp⟩ machine.dockerVersion (by simp)]
  simp only
  rw [stringField_sparse ⟨by simp, .inl rfl⟩ machine.hostname (by simp)]
  simp only
  rw [stringField_sparse ⟨by simp, .inl rfl⟩ machine.arch (by simp)]
  simp only
  rw [stringField_sparse ⟨by simp, by simp⟩ machine.osPrettyName (by simp)]
  simp only
  rw [stringField_sparse ⟨by simp, by simp⟩ machine.kernelVersion (by simp)]
  rfl

end Messages

section Plain

variable (base64 : Base64)

theorem plainMembers_sparse {fields : List (String × Option Json)}
    (plain : ∀ field ∈ fields, ∀ value ∈ field.2, Plain value) :
    PlainMembers (sparseMembers fields) := by
  induction fields with
  | nil => trivial
  | cons field fields ih =>
    obtain ⟨name, value⟩ := field
    have rest := ih fun other member => plain other (mem_cons_of_mem _ member)
    cases value with
    | none => exact rest
    | some value => exact ⟨plain (name, some value) mem_cons_self value rfl, rest⟩

theorem plain_textValue (text : String) : ∀ value ∈ textValue text, Plain value := by
  intro value member
  rw [textValue] at member
  split at member
  · exact nomatch member
  · cases member
    trivial

theorem plain_numberValue (number : Nat) : ∀ value ∈ numberValue number, Plain value := by
  intro value member
  rw [numberValue] at member
  split at member
  · exact nomatch member
  · cases member
    exact ⟨number, rfl⟩

variable {write : α → Json}

theorem plain_listValue (plain : ∀ value, Plain (write value)) (values : List α) :
    ∀ value ∈ listValue write values, Plain value := by
  have items : PlainItems (values.map write) := by
    induction values with
    | nil => trivial
    | cons value values ih => exact ⟨plain value, ih⟩
  intro value member
  rw [listValue] at member
  split at member
  · exact nomatch member
  · cases member
    exact items

theorem plain_message (plain : ∀ value, Plain (write value)) (message : Option α) :
    ∀ value ∈ message.map write, Plain value := by
  intro value member
  obtain ⟨inner, _, rfl⟩ := Option.map_eq_some_iff.mp member
  exact plain inner

theorem plain_ipJson (ip : Ip) : Plain (ipJson base64 ip) := by
  refine plainMembers_sparse ?_
  simpa using plain_textValue _

theorem plain_prefixJson (subnet : PbIpPrefix) : Plain (prefixJson base64 subnet) := by
  refine plainMembers_sparse ?_
  simp only [forall_mem_cons]
  exact ⟨plain_message (plain_ipJson base64) _, plain_numberValue _, by simp⟩

theorem plain_portJson (port : IpPort) : Plain (portJson base64 port) := by
  refine plainMembers_sparse ?_
  simp only [forall_mem_cons]
  exact ⟨plain_message (plain_ipJson base64) _, plain_numberValue _, by simp⟩

theorem plain_networkJson (network : NetworkConfig) : Plain (networkJson base64 network) := by
  refine plainMembers_sparse ?_
  simp only [forall_mem_cons]
  exact ⟨plain_message (plain_prefixJson base64) _, plain_message (plain_ipJson base64) _,
    plain_listValue (plain_portJson base64) _, plain_textValue _, by simp⟩

theorem plain_machineJson (machine : MachineInfo) : Plain (machineJson base64 machine) := by
  refine plainMembers_sparse ?_
  simp only [forall_mem_cons]
  exact ⟨plain_textValue _, plain_textValue _, plain_message (plain_networkJson base64) _,
    plain_message (plain_ipJson base64) _, plain_textValue _, plain_textValue _,
    plain_textValue _, plain_textValue _, plain_textValue _, plain_textValue _, by simp⟩

end Plain

/-- A machine is read back from the text it is stored as. -/
theorem machine_record_round_trip {serde : SerdeJson} {base64 : Base64}
    (json : serde.Lossless base64) (bytes : base64.Lossless) (machine : MachineInfo)
    (fits : ∀ network ∈ machine.network, InRange network) :
    decodeMachine serde base64 (encodeMachine base64 machine) = .ok machine :=
  decode_machineJson bytes machine fits (json machine)

namespace Sample

open Classical in
/-- A reader that undoes the writer. -/
noncomputable def serde : SerdeJson where
  parse text :=
    if written : ∃ json : Json, json.Plain ∧ String.ofList json.write = text then
      .ok written.choose
    else .error "expected value"
  mismatch expected _ := "expected " ++ expected

theorem serde_lossless (base64 : Base64) : serde.Lossless base64 := by
  intro machine
  have plain := plain_machineJson base64 machine
  rw [encodeMachine]
  generalize machineJson base64 machine = json at plain
  have written : ∃ other : Json, other.Plain ∧
      String.ofList other.write = String.ofList json.write := ⟨json, plain, rfl⟩
  have read : serde.parse (String.ofList json.write) = .ok written.choose := dif_pos written
  obtain ⟨chosen, text⟩ := written.choose_spec
  have stops : Stops [] := by simp [Stops]
  have same : written.choose.write ++ [] = json.write ++ [] := by
    rw [String.ofList_inj.mp text]
  rw [read, (write_inj chosen plain stops stops same).1]

def base64 : Base64 where
  encode bytes := String.ofList (Ployz.Base64.encode Ployz.Base64.standard bytes)
  decodeStandard text := Ployz.Base64.decode Ployz.Base64.standard text.toList
  decodeUrlSafe text := Ployz.Base64.decode Ployz.Base64.urlSafe text.toList

theorem base64_lossless : base64.Lossless where
  decode_encode bytes := by
    simp only [base64, String.toList_ofList]
    exact Ployz.Base64.decode_encode bytes
  encode_nil := rfl
  encode_unbroken bytes := by
    simp only [base64, String.toList_ofList]
    exact ⟨fun member => (Ployz.Base64.encode_plain member).1 rfl,
      fun member => (Ployz.Base64.encode_plain member).2 rfl⟩

/-- A machine with some of its fields set. -/
def machine : MachineInfo where
  id := "m1"
  name := "web \"1\""
  network := some
    { subnet := some ⟨some ⟨[10, 210, 0, 0]⟩, 24⟩
      managementIp := some ⟨[]⟩
      endpoints := [⟨none, 51820⟩]
      publicKey := [1, 2, 3, 4] }
  publicIp := none
  arch := "arm64"

theorem machine_inRange : ∀ network ∈ machine.network, InRange network := by
  rintro _ ⟨⟩
  exact ⟨by rintro _ ⟨⟩; decide, by simp⟩

end Sample

open Sample

theorem machine_record_round_trip_sample :
    decodeMachine serde base64 (encodeMachine base64 machine) =
      .ok machine :=
  machine_record_round_trip (serde_lossless base64) base64_lossless machine
    machine_inRange

end Ployz.Store
