import IoLibrary.MessageBuffer
import IoLibrary.Effects.Machine

/-! tftp.c, built with F_STORAGE: the client that reads a file. Addresses and ports are those in
the packets, brought into the byte order of the host, which is little-endian. -/
namespace IoLibrary.Tftp
open Effects

def tftpRrq : ℕ := 1
def tftpData : ℕ := 3
def tftpAck : ℕ := 4
def tftpError : ℕ := 5
def tftpOack : ℕ := 6

def tftpServerPort : ℕ := 69
def tftpBlkSize : ℕ := 512
def gTimeout : ℕ := 5
def maxMtuSize : ℕ := 1514

inductive State
  | none
  | rrq
  | wrq
  | data
  | ack
  | oack
  deriving DecidableEq

inductive Progress
  | progress
  | fail
  | success
  deriving DecidableEq

def zeroIp : Ip := .replicate 4 0

/-- The globals of tftp.c that the reading client uses. -/
structure Client where
  rcvBuf : Mem
  filename : List Byte
  serverIp : Ip
  serverPort : ℕ
  state : State
  blockNum : ℕ
  resendFlag : Bool
  timeCnt : ℕ
  retryCnt : ℕ
  progress : Progress

def text (s : String) : List Byte := s.toList.map fun ch => BitVec.ofNat 8 ch.toNat

def cString (s : List Byte) : List Byte := s ++ [0]

/-- What the client sends. -/
inductive Packet
  | rrq (filename : List Byte)
  | ack (blockNum : ℕ)
  deriving DecidableEq

/-- The bytes of a packet; a request asks for the binary mode and one option. -/
def Packet.bytes : Packet → List Byte
  | .rrq filename =>
    bytes16 tftpRrq ++ cString filename ++ cString (text "octet") ++ cString (text "timeout") ++
      cString (text "5")
  | .ack blockNum => bytes16 tftpAck ++ bytes16 blockNum

/-- A call of send_udp_packet. -/
structure Sending where
  packet : Packet
  ip : Ip
  port : ℕ
  deriving DecidableEq

/-- A call of save_data. -/
structure Block where
  number : ℕ
  data : List Byte

/-- A part of a call: the client after it, the block it saves and what it sends. -/
structure Effect where
  client : Client
  saved : Option Block := none
  sent : List Sending := []

def initTftp (c : Client) : Client :=
  { c with
    filename := []
    serverIp := zeroIp
    serverPort := 0
    state := .none
    blockNum := 0
    resendFlag := false
    timeCnt := 0
    retryCnt := 0
    progress := .progress }

def tftpCancelTimeout (c : Client) : Client :=
  if c.resendFlag then { c with resendFlag := false, timeCnt := 0, retryCnt := 0 } else c

def tftpRegTimeout (c : Client) : Client :=
  if c.resendFlag then c else { c with resendFlag := true, timeCnt := 0, retryCnt := 0 }

def sendTftpRrq (c : Client) (filename : List Byte) : Effect where
  client := tftpRegTimeout { c with state := .rrq, filename := filename }
  sent := [⟨.rrq filename, c.serverIp, tftpServerPort⟩]

def sendTftpAck (c : Client) (blockNum : ℕ) : Effect where
  client := tftpRegTimeout c
  sent := [⟨.ack blockNum, c.serverIp, c.serverPort⟩]

/-- opcode and the field after it are brought into the order of the host in the buffer. -/
def swapFields (m : Mem) : Mem := m.fill [m 1, m 0, m 3, m 2]

/-- msg_len - 4, as a uint32_t. -/
def dataLen (msgLen : ℕ) : ℕ := (BitVec.ofNat 32 msgLen - 4#32).toNat

/-- The end of recv_tftp_data: the acknowledgement and, after a short block, the end of the
transfer. -/
def finishData (c : Client) (saved : Option Block) (msgLen blockNum : ℕ) : Effect :=
  let acked := sendTftpAck c blockNum
  if dataLen msgLen < tftpBlkSize then
    ⟨{ initTftp acked.client with progress := .success }, saved, acked.sent⟩
  else ⟨acked.client, saved, acked.sent⟩

/-- In every state a block is saved where it is the one the client waits for, and acknowledged in
any case. The next number is computed as an int. -/
def recvTftpData (c : Client) (msgLen : ℕ) : Effect :=
  let blockNum := get16 c.rcvBuf 2
  let c := { c with rcvBuf := swapFields c.rcvBuf }
  let block : Block := ⟨blockNum, c.rcvBuf.slice 4 (dataLen msgLen)⟩
  match c.state with
  | .rrq | .oack =>
    if blockNum = 1 then
      finishData (tftpCancelTimeout { c with state := .data, blockNum := blockNum }) (some block)
        msgLen blockNum
    else finishData c none msgLen blockNum
  | .data =>
    if blockNum = c.blockNum + 1 then
      finishData (tftpCancelTimeout { c with blockNum := blockNum }) (some block) msgLen blockNum
    else finishData c none msgLen blockNum
  | _ => { client := c }

def recvTftpOack (c : Client) : Effect :=
  match c.state with
  | .rrq => sendTftpAck (tftpCancelTimeout { c with state := .oack }) 0
  | .wrq => { client := tftpCancelTimeout { c with state := .ack } }
  | _ => { client := c }

def recvTftpError (c : Client) : Effect where
  client := { initTftp { c with rcvBuf := swapFields c.rcvBuf } with progress := .fail }

/-- The messages to a server, and those of another opcode, are ignored. -/
def recvTftpPacket (c : Client) (len : ℕ) (ip : Ip) (port : ℕ) : Effect :=
  if ip = c.serverIp then
    let opcode := get16 c.rcvBuf 0
    let c := if c.state = .wrq ∨ c.state = .rrq then { c with serverPort := port } else c
    if opcode = tftpData then recvTftpData c len
    else if opcode = tftpOack then recvTftpOack c
    else if opcode = tftpError then recvTftpError c
    else { client := c }
  else { client := c }

/-- What recv_udp_packet leaves: a packet in the buffer, or nothing. Its result is a uint16_t, so
that the test for a negative one never holds: where there was no packet, the client goes on with
the bytes that are there already, the length that the code of the failure makes, and an address and
a port that have not been set. -/
inductive Received
  | packet (bytes : List Byte) (ip : Ip) (port : ℕ) (short : bytes.length ≤ maxMtuSize)
  | nothing (code : BitVec 16) (ip : Ip) (port : ℕ)

def Received.len : Received → ℕ
  | .packet bytes _ _ _ => bytes.length
  | .nothing code _ _ => code.toNat

def Received.ip : Received → Ip
  | .packet _ ip _ _ => ip
  | .nothing _ ip _ => ip

def Received.port : Received → ℕ
  | .packet _ _ port _ => port
  | .nothing _ _ port => port

def Client.fill (c : Client) : Received → Client
  | .packet bytes _ _ _ => { c with rcvBuf := c.rcvBuf.fill bytes }
  | .nothing _ _ _ => c

def receive (c : Client) (r : Received) : Effect := recvTftpPacket (c.fill r) r.len r.ip r.port

/-- Send again what has not been answered. -/
def resend (c : Client) : Effect :=
  match c.state with
  | .rrq => sendTftpRrq c c.filename
  | .oack | .data => sendTftpAck c c.blockNum
  | _ => { client := c }

/-- The timeout part of TFTP_run. -/
def checkTimeout (c : Client) : Effect :=
  if c.resendFlag ∧ gTimeout ≤ c.timeCnt then
    let out := resend c
    let next : Client :=
      { out.client with timeCnt := 0, retryCnt := (out.client.retryCnt + 1) % 2 ^ 32 }
    if 5 ≤ next.retryCnt then { out with client := { initTftp next with progress := .fail } }
    else { out with client := next }
  else { client := c }

structure Outcome where
  ret : Progress
  saved : Option Block
  sent : List Sending

def tftpRun (c : Client) (r : Received) : Client × Outcome :=
  let late := checkTimeout c
  let out := receive late.client r
  (out.client, ⟨out.client.progress, out.saved, late.sent ++ out.sent⟩)

def tftpTimeoutHandler (c : Client) : Client :=
  if c.resendFlag then { c with timeCnt := (c.timeCnt + 1) % 2 ^ 32 } else c

def tftpReadRequest (c : Client) (serverIp : Ip) (filename : List Byte) : Effect :=
  sendTftpRrq { c with serverIp := serverIp, progress := .progress } filename

inductive Op
  | run (r : Received)
  | tick

/-- The client as a machine, between its calls and the ticks of the timer. -/
def client : Machine Client Op Outcome := fun c op =>
  match op with
  | .run r => tftpRun c r
  | .tick => (tftpTimeoutHandler c, ⟨c.progress, none, []⟩)

/-- The globals after TFTP_init. -/
def initial (rcvBuf : Mem) : Client where
  rcvBuf := rcvBuf
  filename := []
  serverIp := zeroIp
  serverPort := 0
  state := .none
  blockNum := 0
  resendFlag := false
  timeCnt := 0
  retryCnt := 0
  progress := .progress

end IoLibrary.Tftp
