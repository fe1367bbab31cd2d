import GpioBroker.Act

/-!
# Object buses

What the broker needs of a bus: chips are registered at object paths and unregistered by the number
that registering gave them, or by a value that equals it, and the bus name is released at the end.
-/

namespace GpioBroker

/-- A bus that chip objects can be registered on. -/
class ObjectBus (β : Type) where
  /-- Registers the object of a device at a path and gives its registration. -/
  register (path : Text) (device : Value) : Act β Int
  /-- Takes a registered object off the bus. -/
  unregister (registration : Value) : Act β Unit
  /-- Lets the ownership of the bus name go on as far as it can without waiting. -/
  progress : Act β Unit
  /-- Stops the ownership of the bus name from reporting anything more. -/
  abandon : Act β Unit
  /-- Releases the bus name and closes the connection. -/
  release : Act β Unit

end GpioBroker
