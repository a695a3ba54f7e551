import Devirt.Dispatch.Concrete
import Devirt.IR.Operand

/-!
# The target of a special call

Special calls run constructors, private methods, and methods of a superclass.
-/

namespace Devirt.View

/-- The target of a special call that is made inside the method `container`. Constructors and
private methods are what they are. A method of the container's own class or of a class above it is
resolved like a virtual call, by order of discovery, and any other method is left as it is. -/
def specialTarget (v : View) (call : Call) (container : MethodSignature) :
    Except DispatchError (Option MethodSignature) :=
  let target := call.method
  if call.kind ≠ .special then .error (.notSpecialCall target)
  else if target.sub.isConstructor then .ok (some target)
  else if (v.method? target).any (·.isPrivate) then .ok (some target)
  else if v.hierarchy.isSubclass container.owner target.owner then
    v.concreteTarget .discoveryOrder target
  else .ok (some target)

end Devirt.View
