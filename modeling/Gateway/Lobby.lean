import Gateway.Application

/-! # The lobby

The messages that every gateway understands apart from the pad exchange, and the handlers of three
of them: a greeting is answered with the client's address, a login makes the connection known under
the user's name, and an echo is answered with its text.
-/

namespace Gateway.Lobby

def hello : RecordType := ⟨"HELLO", []⟩

/-- A login names the user. -/
def login : RecordType := ⟨"LOGIN", [⟨"user", .text, none⟩]⟩

def move : RecordType :=
  ⟨"MOVE", [
    ⟨"x", .integer Int32.minValue.toInt Int32.maxValue.toInt, none⟩,
    ⟨"y", .integer Int32.minValue.toInt Int32.maxValue.toInt, none⟩]⟩

def echo : RecordType := ⟨"ECHO", [⟨"text", .text, some (.string "")⟩]⟩

/-- A player's profile. -/
def profile : RecordType :=
  ⟨"PROFILE", [
    ⟨"name", .optionalText, some .null⟩,
    ⟨"tags", .texts, some (.array [])⟩,
    ⟨"maxLevel", .integer 0 255, some (.int 0)⟩,
    ⟨"admin", .flag, some (.bool false)⟩]⟩

/-- The type of messages whose body is the received object itself. -/
def anyKind : String := "ANY"

def types : List (String × BodyType) :=
  [hello, login, move, echo, profile].map (fun type => (type.name, type.bodyType)) ++
    [(anyKind, .whole)]

/-- A handler that checks nothing beforehand and keeps no state. -/
def stateless (answer : Context → Envelope → Outcome Response) : Handler σ where
  validate := fun _ _ state => (.done (), state)
  process := fun context envelope state => (answer context envelope, state)

/-- The value of a text that may be missing. -/
def optionalText : Option String → Json
  | some text => .string text
  | none => .null

def answerHello (_ : Context) (envelope : Envelope) : Outcome Response :=
  .done (Response.success [optionalText envelope.addresses.client])

/-- Makes the connection known under the user's name. -/
def answerLogin (_ : Context) (envelope : Envelope) : Outcome Response :=
  match envelope.body.text? login.name "user" with
  | some user => .done ((Response.success []).withKeys [.name user])
  | none => .failed (.unexpected ["body is not a login"])

def answerEcho (_ : Context) (envelope : Envelope) : Outcome Response :=
  .done (Response.success [.string ((envelope.body.text? echo.name "text").getD "")])

/-- What serves the messages of the lobby and of the pad exchange. -/
def services : List (String × Service α) :=
  [(hello.name, .application (stateless answerHello)),
    (login.name, .application (stateless answerLogin)),
    (echo.name, .application (stateless answerEcho)),
    (PadExchange.requestKind, .padRequest),
    (PadExchange.ackKind, .padAck)]

/-- The application that serves the lobby, with nothing allowed over the web. -/
def application : Application α where
  types := .ofList types
  services := .ofList services
  describe := Templates.builtIn.describe
  admitsWeb := fun _ => false
  inProcessTransport := .raw
  admitsInProcess := fun _ => true

end Gateway.Lobby
