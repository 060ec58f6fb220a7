import RLib.Qps.Rc
import Mathlib.Data.List.Induction

namespace RLib.Qps.QPConfig

section Setters

variable (c : QPConfig)

def setAccessFlags (flags : U32) : QPConfig := { c with accessFlags := flags }

def clearAccessFlags : QPConfig := c.setAccessFlags 0

def setMaxRdOps (maxRd : U32) : QPConfig := { c with maxRdAtomic := maxRd, maxDestRdAtomic := maxRd }

def setPsn (psn : U32) : QPConfig := { c with rqPsn := psn, sqPsn := psn }

/-- `timeout = timeout` assigns the parameter, which hides the member, to itself. -/
def setTimeout (_timeout : U32) : QPConfig := c

def setMaxSend (num : U32) : QPConfig := { c with maxSendSize := num }

def setMaxRecv (num : U32) : QPConfig := { c with maxRecvSize := num }

def addAccessWrite : QPConfig := { c with accessFlags := c.accessFlags ||| 2 }

def addAccessRead : QPConfig := { c with accessFlags := c.accessFlags ||| 4 }

def addAccessAtomic : QPConfig := { c with accessFlags := c.accessFlags ||| 8 }

def setQkey (k : U32) : QPConfig := { c with qkey := k }

def setDcKey (k : U32) : QPConfig := { c with dcKey := k }

end Setters

inductive Setter where
  | setAccessFlags (flags : U32)
  | clearAccessFlags
  | setMaxRdOps (maxRd : U32)
  | setPsn (psn : U32)
  | setTimeout (timeout : U32)
  | setMaxSend (num : U32)
  | setMaxRecv (num : U32)
  | addAccessWrite
  | addAccessRead
  | addAccessAtomic
  | setQkey (k : U32)
  | setDcKey (k : U32)
deriving DecidableEq

def call (c : QPConfig) : Setter → QPConfig
  | .setAccessFlags flags => c.setAccessFlags flags
  | .clearAccessFlags => c.clearAccessFlags
  | .setMaxRdOps maxRd => c.setMaxRdOps maxRd
  | .setPsn psn => c.setPsn psn
  | .setTimeout timeout => c.setTimeout timeout
  | .setMaxSend num => c.setMaxSend num
  | .setMaxRecv num => c.setMaxRecv num
  | .addAccessWrite => c.addAccessWrite
  | .addAccessRead => c.addAccessRead
  | .addAccessAtomic => c.addAccessAtomic
  | .setQkey k => c.setQkey k
  | .setDcKey k => c.setDcKey k

def build (setters : List Setter) : QPConfig := setters.foldl call {}

namespace Setter

/-- The value that a call gives the attribute it names. -/
def accessFlags? : Setter → Option U32
  | .setAccessFlags flags => some flags
  | .clearAccessFlags => some 0
  | _ => none

def added : Setter → U32
  | .addAccessWrite => 2
  | .addAccessRead => 4
  | .addAccessAtomic => 8
  | _ => 0

def maxRdOps? : Setter → Option U32
  | .setMaxRdOps maxRd => some maxRd
  | _ => none

def psn? : Setter → Option U32
  | .setPsn psn => some psn
  | _ => none

def timeout? : Setter → Option U32
  | .setTimeout timeout => some timeout
  | _ => none

def maxSend? : Setter → Option U32
  | .setMaxSend num => some num
  | _ => none

def maxRecv? : Setter → Option U32
  | .setMaxRecv num => some num
  | _ => none

end Setter

/-- The value of the last call that names the attribute. -/
def lastNamed (names : Setter → Option U32) (setters : List Setter) : Option U32 := setters.reverse.findSome? names

/-- The flags that the calls behind the last one to set the flags add. -/
def addedLater (setters : List Setter) : U32 :=
  (setters.reverse.takeWhile (fun s => s.accessFlags?.isNone)).foldr (fun s flags => flags ||| s.added) 0

/-- The attributes of a queue pair that a configuration is about. -/
structure Attributes where
  accessFlags : U32
  maxRdAtomic : U32
  maxDestRdAtomic : U32
  rqPsn : U32
  sqPsn : U32
  timeout : U32
  maxSendWr : U32
  maxRecvWr : U32
deriving DecidableEq

def asked (setters : List Setter) : Attributes where
  accessFlags := (lastNamed Setter.accessFlags? setters).getD remoteAccess ||| addedLater setters
  maxRdAtomic := (lastNamed Setter.maxRdOps? setters).getD 16
  maxDestRdAtomic := (lastNamed Setter.maxRdOps? setters).getD 16
  rqPsn := (lastNamed Setter.psn? setters).getD kDefaultPSN
  sqPsn := (lastNamed Setter.psn? setters).getD kDefaultPSN
  timeout := (lastNamed Setter.timeout? setters).getD 20
  maxSendWr := (lastNamed Setter.maxSend? setters).getD kRcMaxSendSz
  maxRecvWr := (lastNamed Setter.maxRecv? setters).getD kRcMaxRecvSz

/-- A field that each setter leaves alone or sets to the value it names holds the last such value. -/
theorem build_field (field : QPConfig → U32) (names : Setter → Option U32)
    (sets : ∀ c s, field (call c s) = (names s).getD (field c)) (setters : List Setter) :
    field (build setters) = (lastNamed names setters).getD (field {}) := by
  induction setters using List.reverseRecOn with
  | nil => rfl
  | append_singleton setters s ih =>
    rw [build, List.foldl_concat, sets, lastNamed, List.reverse_concat, List.findSome?_cons]
    cases names s with
    | none => exact ih
    | some value => rfl

theorem call_accessFlags (c : QPConfig) (s : Setter) :
    (call c s).accessFlags = s.accessFlags?.getD (c.accessFlags ||| s.added) := by
  cases s with
  | setAccessFlags flags => rfl
  | clearAccessFlags => rfl
  | addAccessWrite => rfl
  | addAccessRead => rfl
  | addAccessAtomic => rfl
  | _ => exact BitVec.or_zero.symm

theorem build_accessFlags (setters : List Setter) : (build setters).accessFlags = (asked setters).accessFlags := by
  induction setters using List.reverseRecOn with
  | nil => rfl
  | append_singleton setters s ih =>
    rw [build, List.foldl_concat, call_accessFlags]
    simp only [asked, lastNamed, addedLater, List.reverse_concat, List.findSome?_cons, List.takeWhile_cons]
    cases s.accessFlags? with
    | none =>
      simp only [Option.getD_none, Option.isNone_none, ↓reduceIte, List.foldr_cons]
      rw [← BitVec.or_assoc]
      exact congrArg (· ||| s.added) ih
    | some flags => exact BitVec.or_zero.symm

theorem build_maxRdAtomic (setters : List Setter) : (build setters).maxRdAtomic = (asked setters).maxRdAtomic :=
  build_field maxRdAtomic Setter.maxRdOps? (fun _ s => by cases s <;> rfl) setters

theorem build_maxDestRdAtomic (setters : List Setter) :
    (build setters).maxDestRdAtomic = (asked setters).maxDestRdAtomic :=
  build_field maxDestRdAtomic Setter.maxRdOps? (fun _ s => by cases s <;> rfl) setters

theorem build_rqPsn (setters : List Setter) : (build setters).rqPsn = (asked setters).rqPsn :=
  build_field rqPsn Setter.psn? (fun _ s => by cases s <;> rfl) setters

theorem build_sqPsn (setters : List Setter) : (build setters).sqPsn = (asked setters).sqPsn :=
  build_field sqPsn Setter.psn? (fun _ s => by cases s <;> rfl) setters

theorem build_maxSendSize (setters : List Setter) : (build setters).maxSendSize = (asked setters).maxSendWr :=
  build_field maxSendSize Setter.maxSend? (fun _ s => by cases s <;> rfl) setters

theorem build_maxRecvSize (setters : List Setter) : (build setters).maxRecvSize = (asked setters).maxRecvWr :=
  build_field maxRecvSize Setter.maxRecv? (fun _ s => by cases s <;> rfl) setters

theorem build_timeout (setters : List Setter) : (build setters).timeout = 20 :=
  (build_field timeout (fun _ => none) (fun _ s => by cases s <;> rfl) setters).trans
    (by rw [lastNamed, List.findSome?_eq_none_iff.mpr (fun _ _ => rfl)]; rfl)

end RLib.Qps.QPConfig
