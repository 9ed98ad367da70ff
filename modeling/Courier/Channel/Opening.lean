import Courier.Channel.Basic
import Courier.Settings
import Courier.Text.Percent

/-! Opening a channel. -/
namespace Courier

/-- What a part of a URI means. -/
def Percent.meaning (part : String) : String :=
  Bytes.lossyText (Percent.decode (Bytes.ofString part))

/-- The virtual host that the connection URI names; a query or a fragment is no part of it. -/
def ConnectionSettings.openedVhost (c : ConnectionSettings) : String :=
  Percent.meaning (String.ofList (c.vhostPath.toList.takeWhile fun x => x ≠ '?' && x ≠ '#'))

namespace Channel

/-- Connects to the peer. -/
def connect (s : Settings) : StateM Channel Bool := do
  if !(← get).peer.reachable then return false
  if (← meet .greeting).isSome then return false
  let user := Percent.meaning s.connection.user
  let password := Percent.meaning s.connection.password
  if !(← ask (.startOk user password s.app.name)) then return false
  ask (.connectionOpen s.connection.openedVhost)

/-- Opens a channel with these settings: it confirms messages and limits the messages under way as
they say. -/
def establish (s : Settings) : ExceptT BrokerError (StateM Channel) Unit := do
  if !s.validate.isOk then throw .connection
  if !(← (connect s : StateM Channel Bool)) then throw .connection
  require .channel .channelOpen
  if s.connection.confirm then
    require .confirmSelect (.confirmSelect false)
    modify ({ · with confirming := true })
  if s.connection.maxQos ≠ 0 then
    require (.qos transportReason) (.qos s.connection.maxQos true)

/-- A channel to `peer` with these settings, and whether it could be opened. -/
def opened (peer : Peer) (s : Settings) : Except BrokerError Unit × Channel :=
  (establish s).run.run { peer }

end Channel
end Courier
