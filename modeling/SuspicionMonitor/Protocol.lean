import Std.Data.ExtTreeMap

/-!
# Protocol vocabulary

The phases of a round, the two kinds of suspicion report, and the two kinds of
value submitted for total ordering, with their wire codes and names.
-/

namespace SuspicionMonitor

/-- The phase of a round in which a delay was seen. -/
inductive Phase where
  | propose
  | write
  | accept
  | unknown
  deriving DecidableEq

namespace Phase

/-- Position in the protocol; phases are ordered by it. -/
def rank : Phase → Nat
  | propose => 0
  | write => 1
  | accept => 2
  | unknown => 3

instance : Ord Phase := ⟨compareOn rank⟩

instance : Std.TransOrd Phase :=
  inferInstanceAs (Std.TransCmp (compareOn rank))

instance : Std.LawfulEqOrd Phase where
  eq_of_compare := by
    intro earlier later
    cases earlier <;> cases later <;> decide

/-- The wire code is the first letter of the name. -/
def code : Phase → UInt16
  | propose => 80
  | write => 87
  | accept => 65
  | unknown => 85

/-- Codes that name no phase stand for `unknown`. -/
def ofCode (code : UInt16) : Phase :=
  if code = 80 then propose
  else if code = 87 then write
  else if code = 65 then accept
  else unknown

def text : Phase → String
  | propose => "PROPOSE"
  | write => "WRITE"
  | accept => "ACCEPT"
  | unknown => "UNKNOWN"

end Phase

/-- What a suspicion report claims: the suspect was slower than expected, or
it accused the reporter without cause. -/
inductive SuspicionKind where
  | slow
  | falseAccusation
  deriving DecidableEq

namespace SuspicionKind

def code : SuspicionKind → Int32
  | slow => 1
  | falseAccusation => 2

def ofCode? (code : Int32) : Option SuspicionKind :=
  if code = 1 then some slow
  else if code = 2 then some falseAccusation
  else none

/-- Kinds are ordered by their codes. -/
instance : Ord SuspicionKind := ⟨compareOn code⟩

instance : Std.TransOrd SuspicionKind :=
  inferInstanceAs (Std.TransCmp (compareOn code))

instance : Std.LawfulEqOrd SuspicionKind where
  eq_of_compare := by
    intro first second
    cases first <;> cases second <;> decide

def text : SuspicionKind → String
  | slow => "SLOW"
  | falseAccusation => "FALSE_ACCUSATION"

end SuspicionKind

/-- The kind of a value submitted for total ordering. -/
inductive ValueKind where
  | latency
  | suspicion
  deriving DecidableEq

end SuspicionMonitor
