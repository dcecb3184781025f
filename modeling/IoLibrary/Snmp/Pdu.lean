import IoLibrary.Ber.Element
import IoLibrary.Snmp.Answer

/-! The messages of SNMPv1: what the requests that the agent serves look like as a whole. -/
namespace IoLibrary.Snmp
open Ber (Form Element)

/-- A sequence of a name and a value. -/
structure Binding where
  form : Form
  name : Element
  value : Element

def Binding.element (b : Binding) : Element where
  tag := snmpdtypeSequence
  form := b.form
  content := b.name.bytes ++ b.value.bytes

/-- The bytes of the bindings. -/
def bindingBytes (bindings : List Binding) : List Byte := bindings.flatMap fun b => b.element.bytes

@[simp] lemma bindingBytes_nil : bindingBytes [] = [] := rfl

@[simp] lemma bindingBytes_cons (b : Binding) (bindings : List Binding) :
    bindingBytes (b :: bindings) = b.element.bytes ++ bindingBytes bindings := List.flatMap_cons

structure Message where
  form : Form
  version : Element
  community : Element
  pduType : Byte
  pduForm : Form
  requestId : Element
  errorStatus : Element
  errorIndex : Element
  listForm : Form
  bindings : List Binding

def Message.list (msg : Message) : Element where
  tag := snmpdtypeSequence
  form := msg.listForm
  content := bindingBytes msg.bindings

def Message.pdu (msg : Message) : Element where
  tag := msg.pduType
  form := msg.pduForm
  content := msg.requestId.bytes ++ msg.errorStatus.bytes ++ msg.errorIndex.bytes ++ msg.list.bytes

def Message.element (msg : Message) : Element where
  tag := snmpdtypeSequence
  form := msg.form
  content := msg.version.bytes ++ msg.community.bytes ++ msg.pdu.bytes

def Message.bytes (msg : Message) : List Byte := msg.element.bytes

def snmpdtypeNullItem : Byte := 0x05
def snmpdtypeOpaque : Byte := 0x44

/-- The type of an IP address, which snmp.h does not name. -/
def ipAddress : Byte := 0x40

/-- The types of the values of SNMPv1. -/
def valueTypes : List Byte :=
  [snmpdtypeInteger, snmpdtypeOctetString, snmpdtypeNullItem, snmpdtypeObjId, ipAddress,
    snmpdtypeCounter, snmpdtypeGauge, snmpdtypeTimeTicks, snmpdtypeOpaque]

structure Binding.WellFormed (b : Binding) : Prop where
  element : b.element.WellFormed
  name : b.name.WellFormed
  nameType : b.name.tag = snmpdtypeObjId
  value : b.value.WellFormed
  valueType : b.value.tag ∈ valueTypes

/-- Every length says how many octets of content follow it, and every part has its type. -/
structure Message.WellFormed (msg : Message) : Prop where
  element : msg.element.WellFormed
  version : msg.version.WellFormed
  versionType : msg.version.tag = snmpdtypeInteger
  community : msg.community.WellFormed
  communityType : msg.community.tag = snmpdtypeOctetString
  pdu : msg.pdu.WellFormed
  requestId : msg.requestId.WellFormed
  requestIdType : msg.requestId.tag = snmpdtypeInteger
  errorStatus : msg.errorStatus.WellFormed
  errorStatusType : msg.errorStatus.tag = snmpdtypeInteger
  errorIndex : msg.errorIndex.WellFormed
  errorIndexType : msg.errorIndex.tag = snmpdtypeInteger
  list : msg.list.WellFormed
  bindings : ∀ b ∈ msg.bindings, b.WellFormed

/-- The numbers of a request are not empty, and its error fields are zero. -/
structure Message.IsRequest (msg : Message) : Prop extends msg.WellFormed where
  ownVersion : msg.version.content = [snmpV1]
  ownCommunity : msg.community.content = Snmp.community
  pduType : ValidRequest msg.pduType
  identified : msg.requestId.content ≠ []
  noStatus : msg.errorStatus.content = [0]
  noIndex : msg.errorIndex.content = [0]

/-- A datagram that is a request as a whole. -/
def Complete (datagram : List Byte) : Prop := ∃ msg : Message, msg.IsRequest ∧ msg.bytes = datagram

end IoLibrary.Snmp
