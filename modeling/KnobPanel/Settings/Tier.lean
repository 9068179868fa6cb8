/-!
# Auto-off tiers

How long the keyboard has to be idle before a display or light goes off.
-/

namespace KnobPanel

inductive AutoOffTier where
  | never
  | secs10
  | secs60
  | secs300
  | secs600
  | secs1800
  | secs3600
  deriving DecidableEq

namespace AutoOffTier

def index (tier : AutoOffTier) : UInt8 := tier.ctorIdx.toUInt8

def ofIndex (index : UInt8) : AutoOffTier :=
  [never, secs10, secs60, secs300, secs600, secs1800, secs3600].getD index.toNat never

theorem ofIndex_index (tier : AutoOffTier) : ofIndex tier.index = tier := by
  cases tier <;> rfl

/-- Idle seconds that have to be exceeded; `never` has no threshold. -/
def thresholdSecs : AutoOffTier → Nat
  | never => 0
  | secs10 => 10
  | secs60 => 60
  | secs300 => 300
  | secs600 => 600
  | secs1800 => 1800
  | secs3600 => 3600

def expired (tier : AutoOffTier) (idleSecs : Nat) : Bool :=
  tier != never && tier.thresholdSecs < idleSecs

def Exceeded (idleSecs : Nat) : AutoOffTier → Prop
  | never => False
  | secs10 => 10 < idleSecs
  | secs60 => 60 < idleSecs
  | secs300 => 300 < idleSecs
  | secs600 => 600 < idleSecs
  | secs1800 => 1800 < idleSecs
  | secs3600 => 3600 < idleSecs

theorem expired_iff {tier : AutoOffTier} {idleSecs : Nat} :
    tier.expired idleSecs = true ↔ tier.Exceeded idleSecs := by
  cases tier with
  | never => exact ⟨nofun, nofun⟩
  | _ => exact decide_eq_true_iff

instance (idleSecs : Nat) (tier : AutoOffTier) : Decidable (tier.Exceeded idleSecs) :=
  decidable_of_iff _ expired_iff

theorem expired_eq (tier : AutoOffTier) (idleSecs : Nat) :
    tier.expired idleSecs = decide (tier.Exceeded idleSecs) :=
  Bool.eq_iff_iff.mpr (expired_iff.trans decide_eq_true_iff.symm)

end AutoOffTier

end KnobPanel
