import Courier.Proofs.BusinessDate
import Courier.Proofs.LowerCase
import Courier.Proofs.Separator

/-! Queue names tell contracts apart: the parts of a name can be read off it, since only one of them
may have dots in it. -/
namespace Courier

theorem dot_mem_splitCapitals {cs : List Char} (h : '.' ∈ splitCapitals cs) : '.' ∈ cs := by
  unfold splitCapitals at h
  rw [List.mem_flatMap] at h
  obtain ⟨c, hc, hd⟩ := h
  split at hd
  · have hdot : '.' ∈ Text.lowerChar c := by simpa using hd
    rw [← Text.dot_mem_lowerChar hdot]
    exact hc
  · rw [List.mem_singleton] at hd
    rw [hd]
    exact hc

theorem dropUnderscore_suffix (cs : List Char) : dropUnderscore cs <:+ cs := by
  unfold dropUnderscore
  split
  · exact List.suffix_cons _ _
  · exact List.suffix_refl _

/-- There is no dot in the text. -/
def Dotless (s : String) : Prop := '.' ∉ s.toList

instance (s : String) : Decidable (Dotless s) := inferInstanceAs (Decidable (¬ _))

theorem Dotless.segment {raw : String} (h : Dotless raw) : Dotless (segment raw) := by
  intro hdot
  unfold Courier.segment at hdot
  rw [String.toList_ofList] at hdot
  have hsplit := (dropUnderscore_suffix _).mem hdot
  exact h (Text.dot_mem_lowerChars (dot_mem_splitCapitals hsplit))

namespace BusinessDate
variable {cs : List Char}

theorem IsNumber.dot_notMem (h : IsNumber cs) : '.' ∉ cs := by
  intro hdot
  cases h.digits '.' hdot

theorem Blanks.dot_notMem (h : Blanks cs) : '.' ∉ cs := by
  intro hdot
  have hblank := h '.' hdot
  revert hblank
  decide

theorem SpellsYear.dot_notMem {year : Int} (h : SpellsYear cs year) : '.' ∉ cs := by
  cases h with
  | plain h => exact h.dot_notMem
  | minus h => simpa using h.dot_notMem
  | plus h => simpa using h.dot_notMem

theorem SpellsPart.dot_notMem {n : Nat} (h : SpellsPart cs n) : '.' ∉ cs := by
  obtain ⟨h, -⟩ := h
  exact h.dot_notMem

theorem Spells.dot_notMem {date : Day} (h : Spells cs date) : '.' ∉ cs := by
  obtain ⟨hb₁, year, hb₂, month, hb₃, day⟩ := h
  simp [hb₁.dot_notMem, year.dot_notMem, hb₂.dot_notMem, month.dot_notMem, hb₃.dot_notMem,
    day.dot_notMem]

theorem dotless_of_accepts {s : String} (h : accepts s = true) : Dotless s := by
  unfold accepts at h
  rw [Bool.and_eq_true, Option.isSome_iff_exists] at h
  obtain ⟨-, date, hdate⟩ := h
  exact (parse?_eq_some_iff.mp hdate).1.dot_notMem

end BusinessDate

theorem ExchangeKind.dotless_name (k : ExchangeKind) : Dotless k.name := by
  cases k <;> decide

theorem ExchangeKind.name_inj {k l : ExchangeKind} : k.name = l.name ↔ k = l := by
  cases k <;> cases l <;> decide

section
variable {a b x y : String}

theorem Dotless.append_inj (ha : Dotless a) (hb : Dotless b) :
    a ++ "." ++ x = b ++ "." ++ y ↔ a = b ∧ x = y := by
  have hlist : a.toList ++ '.' :: x.toList = b.toList ++ '.' :: y.toList ↔
      a.toList = b.toList ∧ x.toList = y.toList := append_sep_inj ha hb
  rw [String.toList_inj, String.toList_inj] at hlist
  rw [← hlist, ← String.toList_inj]
  simp

theorem Dotless.inj_append (ha : Dotless a) (hb : Dotless b) :
    x ++ "." ++ a = y ++ "." ++ b ↔ x = y ∧ a = b := by
  have hlist : x.toList ++ '.' :: a.toList = y.toList ++ '.' :: b.toList ↔
      x.toList = y.toList ∧ a.toList = b.toList := sep_append_inj ha hb
  rw [String.toList_inj, String.toList_inj] at hlist
  rw [← hlist, ← String.toList_inj]
  simp

end

/-- The first two parts of a queue's name stand before all dots of its logical name, the last three
behind them. -/
theorem queueAddress_eq (env moduleName queue date : String) (x : Exchange) :
    queueAddress env moduleName queue date x = env ++ "." ++ (segment moduleName ++ "." ++
      (queue ++ "." ++ Text.trim date ++ "." ++
        (if x.isDefault then "default" else segment x.name) ++ "." ++ x.kind.name)) := by
  simp [queueAddress, String.append_assoc]

namespace Contract
variable {c c' : Contract} {env env' : String}

/-- The part of a queue's name that tells of the exchange. -/
theorem dotless_exchange (h : c.exchange.kind ≠ .default → Dotless c.exchange.name) :
    Dotless (if c.exchange.isDefault then "default" else segment c.exchange.name) := by
  by_cases hkind : c.exchange.kind = .default
  · have hdefault : c.exchange.isDefault = true := by simp [Exchange.isDefault, hkind]
    rw [if_pos hdefault]
    decide
  · have hnamed : c.exchange.isDefault = false := by simp [Exchange.isDefault, hkind]
    rw [hnamed]
    exact (h hkind).segment

/-- The queue names of two contracts that are accepted are equal just in case the contracts agree in
all that the names are made from: the environment, the names of module and exchange in lower case,
the logical name of the queue, which alone may have dots in it, the date and the kind of
exchange. -/
theorem address_eq_iff (valid : c.validate = .ok ()) (valid' : c'.validate = .ok ())
    (henv : Dotless env) (henv' : Dotless env') (hmodule : Dotless c.moduleName)
    (hmodule' : Dotless c'.moduleName)
    (hexchange : c.exchange.kind ≠ .default → Dotless c.exchange.name)
    (hexchange' : c'.exchange.kind ≠ .default → Dotless c'.exchange.name) :
    c.address env = c'.address env' ↔
      env = env' ∧ segment c.moduleName = segment c'.moduleName ∧ c.queueName = c'.queueName ∧
        Text.trim c.businessDate = Text.trim c'.businessDate ∧
        c.exchange.kind = c'.exchange.kind ∧
        (c.exchange.kind ≠ .default → segment c.exchange.name = segment c'.exchange.name) := by
  have hdate := BusinessDate.dotless_of_accepts (c.validate_eq_ok.mp valid).2.2.1
  have hdate' := BusinessDate.dotless_of_accepts (c'.validate_eq_ok.mp valid').2.2.1
  unfold address
  rw [queueAddress_eq, queueAddress_eq, henv.append_inj henv',
    hmodule.segment.append_inj hmodule'.segment,
    c.exchange.kind.dotless_name.inj_append c'.exchange.kind.dotless_name,
    (dotless_exchange hexchange).inj_append (dotless_exchange hexchange'),
    hdate.inj_append hdate', ExchangeKind.name_inj]
  constructor
  · rintro ⟨rfl, hsegment, ⟨⟨⟨hqueue, htrim⟩, hname⟩, hkind⟩⟩
    refine ⟨rfl, hsegment, hqueue, htrim, hkind, fun hnamed => ?_⟩
    have hnamed' : c'.exchange.kind ≠ .default := hkind ▸ hnamed
    simpa [Exchange.isDefault, hnamed, hnamed'] using hname
  · rintro ⟨rfl, hsegment, hqueue, htrim, hkind, hname⟩
    refine ⟨rfl, hsegment, ⟨⟨hqueue, htrim⟩, ?_⟩, hkind⟩
    by_cases hdefault : c.exchange.kind = .default
    · have hdefault' : c'.exchange.kind = .default := hkind ▸ hdefault
      simp [Exchange.isDefault, hdefault, hdefault']
    · have hnamed' : c'.exchange.kind ≠ .default := hkind ▸ hdefault
      simpa [Exchange.isDefault, hdefault, hnamed'] using hname hdefault

end Contract

namespace Trial

/-- A contract for the registrations of users, with these names of its module and its exchange. -/
def registrations (moduleName exchange date : String) : Contract :=
  { dated date with
    moduleName
    queueName := "register.user"
    exchange := { Exchange.named exchange with kind := .topic } }

end Trial

namespace Contract
open Trial

/-- Capital letters, an underscore in front and blanks around the date make no difference. -/
theorem one_queue :
    let c := registrations "UserService" "_Events" "2024-02-29"
    let c' := registrations "userservice" "events" " 2024-02-29\n"
    c.validate = .ok () ∧ c'.validate = .ok () ∧ Dotless "dev" ∧ Dotless c.moduleName ∧
      Dotless c'.moduleName ∧ Dotless c.exchange.name ∧ Dotless c'.exchange.name ∧
      c.address "dev" = c'.address "dev" := by
  intro c c'
  have valid : c.validate = .ok () := by decide +kernel
  have valid' : c'.validate = .ok () := by decide +kernel
  have henv : Dotless "dev" := by decide
  have hmodule : Dotless c.moduleName := by decide
  have hmodule' : Dotless c'.moduleName := by decide
  have hexchange : Dotless c.exchange.name := by decide
  have hexchange' : Dotless c'.exchange.name := by decide
  have same := address_eq_iff valid valid' henv henv hmodule hmodule' (fun _ => hexchange)
    fun _ => hexchange'
  refine ⟨valid, valid', henv, hmodule, hmodule', hexchange, hexchange', same.mpr ?_⟩
  exact ⟨rfl, by decide +kernel, rfl, by decide +kernel, rfl, fun _ => by decide +kernel⟩

end Contract
end Courier
