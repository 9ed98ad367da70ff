import Courier.Error
import Courier.Json.Reading
import Courier.Text.Blank

/-! Settings of an application and of its connection to the broker, written as a document in which
everything may be left out. -/
namespace Courier

structure AppSettings where
  name : String := "rabbitmq-reliable"
  env : String := "dev"
  deriving DecidableEq

/-- The timeout is in milliseconds. -/
structure ConnectionSettings where
  host : String := "127.0.0.1"
  port : UInt16 := 5672
  user : String := "guest"
  password : String := "guest"
  vhost : String := "/"
  maxQos : UInt16 := 0
  confirm : Bool := true
  timeout : UInt64 := 10000
  deriving DecidableEq

structure Settings where
  app : AppSettings := {}
  connection : ConnectionSettings := {}
  deriving DecidableEq

open Json

namespace AppSettings

/-- The fields given so far. -/
structure Draft where
  name : Option String := none
  env : Option String := none

def readMember (d : Draft) (key : String) (n : Node) : Reading Draft :=
  match key with
  | "name" => (fill key d.name n.readText).map ({ d with name := · })
  | "env" => (fill key d.env n.readText).map ({ d with env := · })
  | _ => n.skip.map fun _ => d

def ofDraft (d : Draft) : AppSettings :=
  let standard : AppSettings := {}
  ⟨d.name.getD standard.name, d.env.getD standard.env⟩

def read (n : Node) : Reading AppSettings :=
  n.readRecord "struct AppConfigs"
    (fun items => do
      let standard : AppSettings := {}
      let (name, items) ← items.fieldOr standard.name Node.readText
      let (env, items) ← items.fieldOr standard.env Node.readText
      items.finish
      return ⟨name, env⟩)
    fun members closed => (readMembers readMember {} members closed).map ofDraft

end AppSettings

namespace ConnectionSettings

/-- The fields given so far. -/
structure Draft where
  host : Option String := none
  port : Option UInt16 := none
  user : Option String := none
  password : Option String := none
  vhost : Option String := none
  maxQos : Option UInt16 := none
  confirm : Option Bool := none
  timeout : Option UInt64 := none

def readMember (d : Draft) (key : String) (n : Node) : Reading Draft :=
  match key with
  | "host" => (fill key d.host n.readText).map ({ d with host := · })
  | "port" => (fill key d.port n.readUInt16).map ({ d with port := · })
  | "user" => (fill key d.user n.readText).map ({ d with user := · })
  | "password" => (fill key d.password n.readText).map ({ d with password := · })
  | "vhost" => (fill key d.vhost n.readText).map ({ d with vhost := · })
  | "max_qos" => (fill key d.maxQos n.readUInt16).map ({ d with maxQos := · })
  | "confirm" => (fill key d.confirm n.readBool).map ({ d with confirm := · })
  | "connection_timeout" => (fill key d.timeout n.readUInt64).map ({ d with timeout := · })
  | _ => n.skip.map fun _ => d

def ofDraft (d : Draft) : ConnectionSettings :=
  let standard : ConnectionSettings := {}
  { host := d.host.getD standard.host
    port := d.port.getD standard.port
    user := d.user.getD standard.user
    password := d.password.getD standard.password
    vhost := d.vhost.getD standard.vhost
    maxQos := d.maxQos.getD standard.maxQos
    confirm := d.confirm.getD standard.confirm
    timeout := d.timeout.getD standard.timeout }

def read (n : Node) : Reading ConnectionSettings :=
  n.readRecord "struct RabbitMQConfigs"
    (fun items => do
      let standard : ConnectionSettings := {}
      let (host, items) ← items.fieldOr standard.host Node.readText
      let (port, items) ← items.fieldOr standard.port Node.readUInt16
      let (user, items) ← items.fieldOr standard.user Node.readText
      let (password, items) ← items.fieldOr standard.password Node.readText
      let (vhost, items) ← items.fieldOr standard.vhost Node.readText
      let (maxQos, items) ← items.fieldOr standard.maxQos Node.readUInt16
      let (confirm, items) ← items.fieldOr standard.confirm Node.readBool
      let (timeout, items) ← items.fieldOr standard.timeout Node.readUInt64
      items.finish
      return ⟨host, port, user, password, vhost, maxQos, confirm, timeout⟩)
    fun members closed => (readMembers readMember {} members closed).map ofDraft

/-- The virtual host in the connection URI: without the slashes at its start, except for the one
whose name is a slash. -/
def vhostPath (c : ConnectionSettings) : String :=
  if c.vhost = "/" ∨ c.vhost = "" then "%2f"
  else String.ofList (c.vhost.toList.dropWhile (· = '/'))

/-- The connection URI. The parts are not escaped. -/
def uri (c : ConnectionSettings) : String :=
  "amqp://" ++ c.user ++ ":" ++ c.password ++ "@" ++ c.host ++ ":" ++ toString c.port.toNat ++
    "/" ++ c.vhostPath

end ConnectionSettings

namespace Settings

/-- The sections given so far. -/
structure Draft where
  app : Option AppSettings := none
  connection : Option ConnectionSettings := none

def readMember (d : Draft) (key : String) (n : Node) : Reading Draft :=
  match key with
  | "app" => (fill key d.app (AppSettings.read n)).map ({ d with app := · })
  | "rabbitmq" =>
    (fill key d.connection (ConnectionSettings.read n)).map ({ d with connection := · })
  | _ => n.skip.map fun _ => d

def read (n : Node) : Reading Settings :=
  n.readRecord "struct Configs"
    (fun items => do
      let (app, items) ← items.fieldOr {} AppSettings.read
      let (connection, items) ← items.fieldOr {} ConnectionSettings.read
      items.finish
      return ⟨app, connection⟩)
    fun members closed => do
      let d ← readMembers readMember {} members closed
      return ⟨d.app.getD {}, d.connection.getD {}⟩

def parse (text : Bytes) : Reading Settings := (Document.ofBytes text).read read

/-- Refuses settings that no connection can be made with. -/
def validate (s : Settings) : Except SettingsError Unit :=
  if Text.allBlank s.app.env then .error (.blank "app.env")
  else if Text.allBlank s.connection.host then .error (.blank "rabbitmq.host")
  else if Text.allBlank s.connection.user then .error (.blank "rabbitmq.user")
  else if Text.allBlank s.connection.password then .error (.blank "rabbitmq.password")
  else if s.connection.port = 0 then .error .invalidPort
  else .ok ()

end Settings
end Courier
