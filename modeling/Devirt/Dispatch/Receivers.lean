import Devirt.Dispatch.Basic

/-!
# Sets of possible targets

Which subtypes of the class of a method can be hit by a call of it. The answers are ascending lists
of signatures, each retargeted to the subtype.
-/

namespace Devirt.View

/-- The proper subtypes of a class, nearest first, with the method that each declares under a
sub-signature. Each of them has to be resolved by the view. -/
def subtypeMethods (v : View) (m : MethodSignature) :
    Except DispatchError (List (ClassName × Option MethodDeclaration)) :=
  (v.hierarchy.subtypes m.owner).mapM fun c => do
    let d ← v.requireClass c
    return (c, d.method? m.sub)

/-- Every subtype that may receive a call: it declares no such method, and so inherits one, or it
declares one that is not abstract. -/
def receivers (v : View) (m : MethodSignature) : Except DispatchError (List MethodSignature) := do
  let found ← v.subtypeMethods m
  return ascending <| found.filterMap fun (c, declared) =>
    if declared.all (!·.isAbstract) then some (m.onClass c) else none

/-- The methods that subtypes declare themselves and that are not abstract. -/
def overrides (v : View) (m : MethodSignature) : Except DispatchError (List MethodSignature) := do
  let found ← v.subtypeMethods m
  return ascending <| found.filterMap fun (_, declared) =>
    (declared.filter (!·.isAbstract)).map (·.signature)

end Devirt.View

namespace Devirt

/-- Possible targets inside and outside some classes. -/
structure Partition where
  kept : List MethodSignature
  excluded : List MethodSignature

namespace View

/-- Every possible receiver, split into those inside and those outside some classes. -/
def partitionReceivers (v : View) (m : MethodSignature) (classes : List ClassName) :
    Except DispatchError Partition := do
  let (kept, excluded) := (← v.receivers m).partition fun r => classes.contains r.owner
  return ⟨kept, excluded⟩

/-- Every possible receiver inside some classes. -/
def receiversIn (v : View) (m : MethodSignature) (classes : List ClassName) :
    Except DispatchError (List MethodSignature) :=
  (v.partitionReceivers m classes).map (·.kept)

end View

end Devirt
