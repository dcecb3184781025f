import IoLibrary.Socket.Datagram

/-! close_internal as the W5300 build compiles it, with the dummy datagram of erratum 1. The chip
is on a 16-bit bus: a cycle of it is a frame of two bytes, of which no failure is reported. The
state of the sockets, the clock and the waits are those of the other builds. -/
namespace IoLibrary.W5300
open Effects

section bus

/-- An offset from the base address; the address space has no blocks. -/
def atOffset (offset : ℕ) : Addr := ⟨offset, .common⟩

/-- WIZCHIP_SREG_BLOCK -/
def sregBlock (n : ℕ) : ℕ := 0x0200 + 0x0040 * n

def subr : ℕ := 0x14
def sipr : ℕ := 0x18
def tms01r : ℕ := 0x20

def snMR (n : ℕ) : Addr := atOffset (sregBlock n + 0x00)
def snCR (n : ℕ) : Addr := atOffset (sregBlock n + 0x02)
def snIR (n : ℕ) : Addr := atOffset (sregBlock n + 0x06)
def snSSR (n : ℕ) : Addr := atOffset (sregBlock n + 0x08)
def snPORTR (n : ℕ) : Addr := atOffset (sregBlock n + 0x0A)
def snDPORTR (n : ℕ) : Addr := atOffset (sregBlock n + 0x12)
def snDIPR (n half : ℕ) : Addr := atOffset (sregBlock n + 0x14 + half)
def snTXWRSR (n half : ℕ) : Addr := atOffset (sregBlock n + 0x20 + half)
def snTXFSR (n half : ℕ) : Addr := atOffset (sregBlock n + 0x24 + half)
def snRXRSR (n half : ℕ) : Addr := atOffset (sregBlock n + 0x28 + half)
def snTXFIFOR (n : ℕ) : Addr := atOffset (sregBlock n + 0x2E)

def wizchipWrite (a : Addr) (wb : BitVec 16) : Drv Unit := do
  let _ ← ask (.writeBuf a [(wb >>> 8).setWidth 8, wb.setWidth 8])
  return ()

def wizchipRead (a : Addr) : Drv (BitVec 16) := do
  let x ← ask (.readBuf a 2)
  return getElem x.1 0 Nat.zero_lt_two ++ getElem x.1 1 Nat.one_lt_two

/-- The registers of which only the low byte is used. -/
def readLow (a : Addr) : Drv Byte := do
  let v ← wizchipRead a
  return v.setWidth 8

def setSnMR (sn : ℕ) (mr : BitVec 16) : Drv Unit := wizchipWrite (snMR sn) mr
def setSnCR (sn : ℕ) (cr : Byte) : Drv Unit := wizchipWrite (snCR sn) (cr.setWidth 16)
def getSnCR (sn : ℕ) : Drv Byte := readLow (snCR sn)
def setSnIR (sn : ℕ) (ir : Byte) : Drv Unit := wizchipWrite (snIR sn) (ir.setWidth 16)
def getSnIR (sn : ℕ) : Drv Byte := readLow (snIR sn)
def getSnSR (sn : ℕ) : Drv Byte := readLow (snSSR sn)
def setSnPORTR (sn port : ℕ) : Drv Unit := wizchipWrite (snPORTR sn) (BitVec.ofNat 16 port)
def setSnDPORTR (sn dport : ℕ) : Drv Unit := wizchipWrite (snDPORTR sn) (BitVec.ofNat 16 dport)

def setSnDIPR (sn : ℕ) (dipr : Vector Byte 4) : Drv Unit := do
  wizchipWrite (snDIPR sn 0) (dipr[0] ++ dipr[1])
  wizchipWrite (snDIPR sn 2) (dipr[2] ++ getElem dipr 3 three_lt_four)

def setSnTXWRSR (sn : ℕ) (txwrs : BitVec 32) : Drv Unit := do
  wizchipWrite (snTXWRSR sn 0) ((txwrs >>> 16).setWidth 16)
  wizchipWrite (snTXWRSR sn 2) (txwrs.setWidth 16)

/-- getSIPR and getSUBR read each half once for each of its bytes. -/
def getAddress (offset : ℕ) : Drv (Vector Byte 4) := do
  let v₀ ← wizchipRead (atOffset offset)
  let v₁ ← wizchipRead (atOffset offset)
  let v₂ ← wizchipRead (atOffset (offset + 2))
  let v₃ ← wizchipRead (atOffset (offset + 2))
  return #v[(v₀ >>> 8).setWidth 8, v₁.setWidth 8, (v₂ >>> 8).setWidth 8, v₃.setWidth 8]

def setSUBR (v : Vector Byte 4) : Drv Unit := do
  wizchipWrite (atOffset subr) (v[0] ++ v[1])
  wizchipWrite (atOffset (subr + 2)) (v[2] ++ getElem v 3 three_lt_four)

/-- Reads until two sizes in a row agree; the first is compared with 1. -/
def getSnTXFSR (b : Build) (sn : ℕ) : Drv (BitVec 32) :=
  Prog.loop (fun freeTxSize1 : BitVec 32 => do
    let high ← wizchipRead (snTXFSR sn 0)
    let low ← wizchipRead (snTXFSR sn 2)
    let freeTxSize : BitVec 32 := high ++ low
    if freeTxSize = freeTxSize1 then return .leave freeTxSize
    return .again freeTxSize) b.turns 1

def packFifobyte : Byte := 0x02

/-- The byte of a FIFO word that no call has taken yet is counted with the size. -/
def getSnRXRSR (b : Build) (sn : ℕ) : Drv (BitVec 32) := do
  let receivedRxSize ← Prog.loop (fun receivedRxSize1 : BitVec 32 => do
    let high ← wizchipRead (snRXRSR sn 0)
    let low ← wizchipRead (snRXRSR sn 2)
    let receivedRxSize : BitVec 32 := high ++ low
    if receivedRxSize = receivedRxSize1 then return .leave receivedRxSize
    return .again receivedRxSize) b.turns 1
  let m ← Prog.get
  return receivedRxSize + if (m.sock sn).packInfo &&& packFifobyte ≠ 0 then 1 else 0

def getTMSR (sn : ℕ) : Drv Byte := do
  let v ← wizchipRead (atOffset (tms01r + (sn &&& 0xFE)))
  return if sn % 2 = 1 then v.setWidth 8 else (v >>> 8).setWidth 8

/-- getSn_TxMAX -/
def getSnTxMAX (sn : ℕ) : Drv (BitVec 32) := do
  let tmsr ← getTMSR sn
  return tmsr.setWidth 32 <<< 10

/-- For an odd `len` the last word takes the byte after the data with it. -/
def wizSendData (sn : ℕ) (wizdata : List Byte) (len : ℕ) : Drv Unit := do
  let word (i : ℕ) : Drv (Option Unit) := do
    wizchipWrite (snTXFIFOR sn) (byteAt wizdata (2 * i) ++ byteAt wizdata (2 * i + 1))
    return none
  let _ ← Prog.each word ((len + 1) / 2) 0
  return ()

end bus

section waits
variable (b : Build) (sn : ℕ)

/-- wait_cr_accepted and wait_sr_reached -/
def waitRegister (a : Addr) (wanted : Byte) (deadline : ℕ) : Drv ℤ := do
  let poll ← waitPollInit
  pollLoop b deadline poll look (faultedTimeout sn)
where
  look : Drv (Option ℤ) := do
    let v ← readLow a
    if v = wanted then return some sockOk
    return none

def waitCrAccepted (deadline : ℕ) : Drv ℤ := waitRegister b sn (snCR sn) 0 deadline
def waitSrReached (wanted : Byte) (deadline : ℕ) : Drv ℤ := waitRegister b sn (snSSR sn) wanted deadline

/-- A wait without an end of its own: `while (read != wanted);`. -/
def spin (a : Addr) (wanted : Byte) : Drv Unit :=
  Prog.loop (fun _ : Unit => do
    let v ← readLow a
    if v = wanted then return .leave ()
    return .again ()) b.turns ()

/-- read_sn_tx_fsr, which cannot fail here. -/
def readSnTxFsr : Drv ℕ := do
  let v ← getSnTXFSR b sn
  return (v.setWidth 16).toNat

end waits

section sendto
variable (b : Build) (sn : ℕ)

def sendtoPending : Drv ℤ := do
  let tmp ← getSnIR sn
  if tmp &&& snIrSendok ≠ 0 then
    setSnIR sn snIrSendok
    let m ← Prog.get
    modifySock sn fun s => { s with txPendingLen := 0, txState := .idle }
    return (m.sock sn).txPendingLen
  if tmp &&& snIrTimeout ≠ 0 then
    setSnIR sn snIrTimeout
    modifySock sn fun s => { s with txPendingLen := 0, txState := .idle }
    return sockerrTimeout
  return sockBusy

/-- The destination checks with their register writes, without IPv6. -/
def sendtoAddress (mode : Byte) (addr : Vector Byte 4) (port addrlen : ℕ) : Drv (Except ℤ Unit) := do
  let m := mode &&& 0x0F
  if m ≠ snMrUdp ∧ m ≠ snMrMacraw ∧ m ≠ snMrIpraw ∧ m ≠ snMrIpraw6 then
    return .error sockerrSockmode
  if mode ≠ snMrMacraw then
    if addrlen = 16 then return .error sockerrSockmode
    else if addrlen = 4 then
      if mode = snMrUdp6 ∨ mode = snMrIpraw6 then return .error sockerrSockmode
      setSnDIPR sn addr
      portCheck m
    else return .error sockerrIpinvalid
  else portCheck m
where
  portCheck (m : Byte) : Drv (Except ℤ Unit) := do
    if mode &&& 0x03 = 0x02 then
      if port ≠ 0 then
        setSnDPORTR sn port
        statusCheck m
      else return .error sockerrPortzero
    else statusCheck m
  statusCheck (m : Byte) : Drv (Except ℤ Unit) := do
    if m = snMrMacraw then return .ok ()
    let zero := addr.all (· = 0)
    if zero ∧ mode &&& snMrMacraw ≠ snMrMacraw then return .error sockerrIpinvalid
    if port = 0 ∧ mode &&& snMrMacraw ≠ snMrMacraw then return .error sockerrPortzero
    let sr ← getSnSR sn
    if sr ≠ sockMacraw ∧ sr ≠ sockUdp ∧ sr ≠ sockIpraw then return .error sockerrSockstatus
    setSnDIPR sn addr
    setSnDPORTR sn port
    return .ok ()

def sendtoFreeLook (len : ℕ) (nonblocking : Bool) : Drv (Option (Except ℤ Unit)) := do
  let freesize ← readSnTxFsr b sn
  let sr ← getSnSR sn
  if sr = sockClosed then return some (.error sockerrSockclosed)
  if len ≤ freesize then return some (.ok ())
  if nonblocking then return some (.error sockBusy)
  return none

def sendtoWaitFree (len : ℕ) (isMacraw nonblocking : Bool) (operationTimeoutUs : ℕ) :
    Drv (Except ℤ Unit) := do
  if isMacraw then
    let sr ← getSnSR sn
    return if sr = sockClosed then .error sockerrSockclosed else .ok ()
  else
    let deadline ← wizchipDeadlineAbs operationTimeoutUs
    let poll ← waitPollInit
    pollLoop b deadline poll (sendtoFreeLook b sn len nonblocking) (return .error sockerrTimeout)

/-- Errata 4 and 5: with no IP address the subnet mask is cleared while the datagram is sent;
the result is the mask to restore. -/
def clearSubnet : Drv (Option (Vector Byte 4)) := do
  let taddr ← getAddress sipr
  if taddr.all (· = 0) then
    let taddr ← getAddress subr
    setSUBR (.replicate 4 0)
    return if taddr.all (· = 0) then none else some taddr
  return none

def restoreSubnet (mask : Option (Vector Byte 4)) : Drv Unit :=
  match mask with
  | none => return ()
  | some taddr => setSUBR taddr

def sendtoSentLook (len : ℕ) (mask : Option (Vector Byte 4)) : Drv (Option ℤ) := do
  let tmp ← getSnIR sn
  if tmp &&& snIrSendok ≠ 0 then
    setSnIR sn snIrSendok
    restoreSubnet mask
    return some (len : ℤ)
  if tmp &&& snIrTimeout ≠ 0 then
    setSnIR sn snIrTimeout
    restoreSubnet mask
    return some sockerrTimeout
  return none

def sendtoCommit (buf : List Byte) (len : ℕ) (nonblocking : Bool) : Drv ℤ := do
  setSnIR sn (snIrSendok ||| snIrTimeout)
  wizSendData sn buf len
  let mask ← clearSubnet
  setSnTXWRSR sn (BitVec.ofNat 32 len)
  setSnCR sn snCrSend
  let m ← Prog.get
  let some deadline ← sockDeadlineBegin m.commandTimeoutUs | do
    setTxState sn .localFault
    return sockerrTimeout
  let ret ← waitCrAccepted b sn deadline
  if ret ≠ sockOk then
    setTxState sn .localFault
    return ret
  modifySock sn fun s => { s with txPendingLen := len }
  if nonblocking then
    setTxState sn .dgramPending
    return sockBusy
  let deadline ← wizchipDeadlineAbs m.operationTimeoutUs
  let poll ← waitPollInit
  pollLoop b deadline poll (sendtoSentLook sn len mask) (faultedTimeout sn)

def sendtoIdle (buf : List Byte) (len : ℕ) (addr : Vector Byte 4) (port addrlen : ℕ) : Drv ℤ := do
  let m ← Prog.get
  let mode := (m.sock sn).mode
  match ← sendtoAddress sn mode addr port addrlen with
  | .error e => return e
  | .ok _ =>
    let len := min len (m.txmaxCache sn)
    match ← sendtoWaitFree b sn len (mode &&& 0x0F = snMrMacraw) (m.sock sn).ioMode
      m.operationTimeoutUs with
    | .error e => return e
    | .ok _ => sendtoCommit b sn buf len (m.sock sn).ioMode

def sendtoLocked (buf : List Byte) (len : ℕ) (addr : Vector Byte 4) (port addrlen : ℕ) : Drv ℤ := do
  let m ← Prog.get
  if (m.sock sn).txState = .localFault then return sockerrTimeout
  if (m.sock sn).health = .faulted then return sockerrIo
  if ¬ m.deadlineConfigValid then return sockerrTimeout
  if (m.sock sn).txState = .dgramPending then sendtoPending sn
  else sendtoIdle b sn buf len addr port addrlen

/-- sendto with five arguments: sendto_W5x00, then sendto_IO_6 with `addrlen` 4. `buf` is what
lies at the buffer, which is not null. -/
def sendto (buf : List Byte) (len : ℕ) (addr : Vector Byte 4) (port : ℕ) : Drv ℤ := do
  if len = 0 then return 0
  if sockNum ≤ sn then return sockerrSocknum
  locked sn (sendtoLocked b sn buf len addr port 4)

end sendto

section close
variable (b : Build) (sn : ℕ)

/-- Erratum 1: the socket is reopened as UDP and a byte is sent to 0.0.0.1. -/
def sendDummy : Drv Unit := do
  setSnMR sn (snMrUdp.setWidth 16)
  setSnPORTR sn 0x3000
  setSnCR sn snCrOpen
  spin b (snCR sn) 0
  spin b (snSSR sn) sockUdp
  let _ ← sendto b sn [0, 0, 0, 1] 1 #v[0, 0, 0, 1] 0x3000
  return ()

/-- close_internal between its entry checks and close_clear_state. -/
def closeCommand (deadline : ℕ) : Drv ℤ := do
  let m ← Prog.get
  if (m.sock sn).health = .faulted then return sockOk
  let sr ← getSnSR sn
  if sr = sockClosed then return sockOk
  if (m.sock sn).mode &&& 0x0F = snMrTcp then
    let free ← getSnTXFSR b sn
    let max ← getSnTxMAX sn
    if free ≠ max then
      sendDummy b sn
      issue
    else issue
  else issue
where
  issue : Drv ℤ := do
    setSnCR sn snCrClose
    let ret ← waitCrAccepted b sn deadline
    if ret ≠ sockOk then return ret
    setSnIR sn 0xFF
    waitSrReached b sn sockClosed deadline

/-- close_internal with under_lock = 1, as every caller passes it: close, socket, recv, send and
recvfrom. A deadline of 0 makes this call open its own. -/
def closeInternal (inheritedDeadline : ℕ) : Drv ℤ := do
  if sockNum ≤ sn then return sockerrSocknum
  if inheritedDeadline = 0 then
    let m ← Prog.get
    let some deadline ← sockDeadlineBegin m.commandTimeoutUs
      | closeClearState sn sockerrTimeout
    let ret ← closeCommand b sn deadline
    closeClearState sn ret
  else
    let ret ← closeCommand b sn inheritedDeadline
    closeClearState sn ret

end close

end IoLibrary.W5300
