import Courier.Proofs.Separator
import Courier.Settings

/-! The connection URI tells connections apart as long as no part of it contains the character that
ends the part. Nothing sees to that: the parts are not escaped. -/
namespace Courier

theorem isDigit_of_mem_toString {n : Nat} {c : Char} (h : c ∈ (toString n).toList) :
    c.isDigit = true := by
  rw [Nat.toString_eq_repr, Nat.toList_repr] at h
  exact Nat.isDigit_of_mem_toDigits (by decide) (by decide) h

/-- A number can be read off its digits. -/
theorem ofDigitChars_toString (n : Nat) : Nat.ofDigitChars 10 (toString n).toList 0 = n := by
  rw [Nat.toString_eq_repr, Nat.toList_repr]
  exact Nat.ofDigitChars_toDigits (by decide) (by decide)

namespace ConnectionSettings
variable {c d : ConnectionSettings}

/-- The name of the virtual host without the slashes at its start. -/
def bareVhost (c : ConnectionSettings) : String :=
  String.ofList (c.vhost.toList.dropWhile (· = '/'))

/-- The virtual host is the one whose name is a slash; the empty name stands for it as well. -/
def RootVhost (c : ConnectionSettings) : Prop := c.vhost = "/" ∨ c.vhost = ""

theorem RootVhost.vhostPath_eq (h : c.RootVhost) : c.vhostPath = "%2f" := if_pos h

theorem RootVhost.bareVhost_eq (h : c.RootVhost) : c.bareVhost = "" := by
  unfold bareVhost
  rcases h with h | h <;> rw [h] <;> decide

theorem vhostPath_of_not_root (h : ¬ c.RootVhost) : c.vhostPath = c.bareVhost := if_neg h

/-- The path of the URI tells virtual hosts apart, up to slashes at the start of their names, unless
one of them is called what a slash is written as. -/
theorem vhostPath_inj (hc : c.bareVhost ≠ "%2f") (hd : d.bareVhost ≠ "%2f") :
    c.vhostPath = d.vhostPath ↔ c.bareVhost = d.bareVhost ∧ (c.RootVhost ↔ d.RootVhost) := by
  by_cases hcroot : c.RootVhost
  · by_cases hdroot : d.RootVhost
    · simp [hcroot, hdroot, hcroot.vhostPath_eq, hdroot.vhostPath_eq, hcroot.bareVhost_eq,
        hdroot.bareVhost_eq]
    · rw [hcroot.vhostPath_eq, vhostPath_of_not_root hdroot]
      simp [hcroot, hdroot, hd.symm]
  · by_cases hdroot : d.RootVhost
    · rw [vhostPath_of_not_root hcroot, hdroot.vhostPath_eq]
      simp [hcroot, hdroot, hc]
    · rw [vhostPath_of_not_root hcroot, vhostPath_of_not_root hdroot]
      simp [hcroot, hdroot]

/-- The user's name, the password and the address of the host do not contain the character by which
each of them ends in the URI, and the virtual host is not called what a slash is written as. The
name of a host may contain colons, since no port does. -/
structure Delimited (c : ConnectionSettings) : Prop where
  user : ':' ∉ c.user.toList
  password : '@' ∉ c.password.toList
  host : '/' ∉ c.host.toList
  vhost : c.bareVhost ≠ "%2f"

/-- Host and port. -/
def authority (c : ConnectionSettings) : List Char :=
  c.host.toList ++ ':' :: (toString c.port.toNat).toList

theorem authority_inj : c.authority = d.authority ↔ c.host = d.host ∧ c.port = d.port := by
  have hcolon : ∀ e : ConnectionSettings, ':' ∉ (toString e.port.toNat).toList := by
    intro e h
    cases isDigit_of_mem_toString h
  have hport : (toString c.port.toNat).toList = (toString d.port.toNat).toList ↔
      c.port = d.port := by
    refine ⟨fun h => ?_, fun h => by rw [h]⟩
    have hvalue := congrArg (Nat.ofDigitChars 10 · 0) h
    simp only [ofDigitChars_toString] at hvalue
    exact UInt16.toNat_inj.mp hvalue
  unfold authority
  rw [sep_append_inj (hcolon c) (hcolon d), String.toList_inj, hport]

theorem Delimited.authority (h : c.Delimited) : '/' ∉ c.authority := by
  intro hslash
  rcases List.mem_append.mp hslash with hhost | hport
  · exact h.host hhost
  · rcases List.mem_cons.mp hport with hcolon | hdigit
    · cases hcolon
    · cases isDigit_of_mem_toString hdigit

theorem toList_uri (c : ConnectionSettings) :
    c.uri.toList = "amqp://".toList ++ (c.user.toList ++ ':' :: (c.password.toList ++ '@' ::
      (c.authority ++ '/' :: c.vhostPath.toList))) := by
  unfold uri
  simp [ConnectionSettings.authority]

/-- Two connections have one URI just in case they agree in user, password, host and port, and in
the virtual host up to slashes at its start, where the virtual host that is called a slash is told
from one called by more slashes. -/
theorem uri_inj (hc : c.Delimited) (hd : d.Delimited) :
    c.uri = d.uri ↔ c.user = d.user ∧ c.password = d.password ∧ c.host = d.host ∧
      c.port = d.port ∧ c.bareVhost = d.bareVhost ∧ (c.RootVhost ↔ d.RootVhost) := by
  rw [← String.toList_inj, toList_uri, toList_uri, List.append_right_inj,
    append_sep_inj hc.user hd.user, append_sep_inj hc.password hd.password,
    append_sep_inj hc.authority hd.authority, authority_inj, String.toList_inj, String.toList_inj,
    String.toList_inj, vhostPath_inj hc.vhost hd.vhost, and_assoc]

/-- A slash more or less in front of the virtual host makes no difference; another password does. -/
theorem slashes_share_uri :
    let c : ConnectionSettings :=
      { host := "[::1]", user := "svc@mq", password := "p:/w", vhost := "/orders" }
    let d := { c with vhost := "orders" }
    let e := { c with password := "p:/v" }
    c.Delimited ∧ d.Delimited ∧ e.Delimited ∧ c.uri = d.uri ∧ c.uri ≠ e.uri := by
  intro c d e
  have hc : c.Delimited := ⟨by decide, by decide, by decide, by decide⟩
  have hd : d.Delimited := ⟨by decide, by decide, by decide, by decide⟩
  have he : e.Delimited := ⟨by decide, by decide, by decide, by decide⟩
  refine ⟨hc, hd, he, ?_, ?_⟩
  · refine (uri_inj hc hd).mpr ⟨rfl, rfl, rfl, rfl, by decide, ?_⟩
    unfold RootVhost
    decide
  · intro h
    have hpassword := ((uri_inj hc he).mp h).2.1
    revert hpassword
    decide

end ConnectionSettings

/-- Settings that are accepted can be for two connections with nothing in common, and yet have one
URI. -/
theorem Settings.connections_share_uri :
    let s : Settings := { connection :=
      { user := "a:b@c:1/d", password := "e", host := "f", port := 2, vhost := "g" } }
    let t : Settings := { connection :=
      { user := "a", password := "b", host := "c", port := 1, vhost := "d:e@f:2/g" } }
    s.validate = .ok () ∧ t.validate = .ok () ∧ s.connection.uri = t.connection.uri ∧
      s.connection.user ≠ t.connection.user ∧ s.connection.password ≠ t.connection.password ∧
      s.connection.host ≠ t.connection.host ∧ s.connection.port ≠ t.connection.port ∧
      s.connection.bareVhost ≠ t.connection.bareVhost := by
  decide +kernel

end Courier
