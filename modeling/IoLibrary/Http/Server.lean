import IoLibrary.MessageBuffer
import IoLibrary.Effects.Machine

/-! httpServer.c without an SD card and a data flash: httpServer_run for one socket, and the sending
of a response in parts. What a request asks for is an input here. -/
namespace IoLibrary.Http
open Effects

def dataBufSize : ℕ := 2048

inductive SockStatus
  | idle
  | reqInproc
  | reqDone
  | resInproc
  | resDone
  deriving DecidableEq

inductive StorageType
  | none
  | codeflash
  deriving DecidableEq

/-- st_http_socket, without the file's name, which only a message shows. -/
structure HttpSocket where
  sockStatus : SockStatus
  fileStart : ℕ
  fileLen : ℕ
  fileOffset : ℕ
  storageType : StorageType
  deriving DecidableEq

/-- A content in code flash: a string, whose length is a uint32_t. -/
structure WebContent where
  bytes : List Byte
  noNul : 0 ∉ bytes
  short : bytes.length < 2 ^ 32

/-- What http_process_handler finds that a request asks for. -/
inductive Asked
  | bad
  | notFound
  | cgi
  | content (num : ℕ)
  deriving DecidableEq

inductive SockState
  | established
  | closeWait
  | closed
  | init
  | listen
  | other
  deriving DecidableEq

/-- What a call finds: the status of the socket, the request that is there, and how many bytes the
sending of a body part accepts. The results of the sends are not looked at. -/
structure Input where
  sr : SockState
  asked : Option Asked
  accepts : ℕ

inductive Action
  | header
  | cgi
  | body (bytes : List Byte)
  | discon
  | disconnect
  | socket
  | listen

/-- What read_userReg_webContent puts into the buffer: strncpy fills up with zeros. -/
def readUserRegWebContent (content : List Byte) (offset size : ℕ) : List Byte :=
  (content.drop offset).take size ++ List.replicate (size - (content.length - offset)) 0

/-- The end of send_http_response_body: send the part and move the offset, or clear it. -/
def sendPart (h : HttpSocket) (part : List Byte) (last : Bool) : HttpSocket × List Action :=
  let sent := if part = [] then [] else [Action.body part]
  if last ∨ part = [] then ({ h with fileStart := 0, fileLen := 0, fileOffset := 0 }, sent)
  else ({ h with fileOffset := h.fileOffset + part.length }, sent)

section server
variable (site : List WebContent)

/-- The part of a content that is read for sending; outside of code flash nothing is. The number is
always that of a registered content. -/
def readPart (h : HttpSocket) (start size : ℕ) : List Byte :=
  match h.storageType with
  | .codeflash =>
    match site[start]? with
    | some content => readUserRegWebContent content.bytes h.fileOffset size
    | Option.none => []
  | .none => []

/-- send_http_response_body: the first part of a content, or the next one of the content that is
being sent, whose offset never passes its length. -/
def sendHttpResponseBody (h : HttpSocket) (startAddr fileLen : ℕ) : HttpSocket × List Action :=
  if h.fileLen = 0 then
    if dataBufSize - 1 < fileLen then
      let h := { h with fileStart := startAddr, fileLen := fileLen }
      sendPart h (readPart site h startAddr (dataBufSize - 1)) false
    else sendPart h (readPart site h startAddr fileLen) false
  else
    let rest := h.fileLen - h.fileOffset
    if dataBufSize - 1 < rest then
      sendPart h (readPart site h h.fileStart (dataBufSize - 1)) false
    else sendPart h (readPart site h h.fileStart rest) true

/-- http_process_handler, from what the request asks for. -/
def httpProcessHandler (h : HttpSocket) : Asked → HttpSocket × List Action
  | .bad | .notFound => (h, [.header])
  | .cgi => (h, [.cgi])
  | .content num =>
    match site[num]? with
    | some content =>
      let (h, sent) := sendHttpResponseBody site { h with storageType := .codeflash } num
        content.bytes.length
      (h, .header :: sent)
    | Option.none => (h, [.header])

/-- httpServer_run in the state ESTABLISHED. -/
def httpEstablished (h : HttpSocket) (asked : Option Asked) : HttpSocket × List Action :=
  match h.sockStatus with
  | .idle =>
    match asked with
    | some asked =>
      let (h, actions) := httpProcessHandler site h asked
      if 0 < h.fileLen then ({ h with sockStatus := .resInproc }, actions)
      else ({ h with sockStatus := .resDone }, actions)
    | Option.none => (h, [])
  | .resInproc =>
    let (h, actions) := sendHttpResponseBody site h 0 0
    if h.fileLen = 0 then ({ h with sockStatus := .resDone }, actions) else (h, actions)
  | .resDone =>
    ({ h with fileLen := 0, fileOffset := 0, fileStart := 0, sockStatus := .idle }, [.discon])
  | _ => (h, [])

def httpServerRun : Machine HttpSocket Input (List Action) := fun h i =>
  match i.sr with
  | .established => httpEstablished site h i.asked
  | .closeWait => (h, [.disconnect])
  | .closed => (h, [.socket])
  | .init => (h, [.listen])
  | .listen | .other => (h, [])

end server

/-- HTTPSock_Status as the program starts. -/
def boot : HttpSocket := ⟨.idle, 0, 0, 0, .none⟩

end IoLibrary.Http
