import GpioBroker.UeventSource

/-!
# Scripted uevent sources

A source that does as a script says.
-/

namespace GpioBroker

/-- A uevent source that follows a script. -/
structure ScriptedSource where
  present : List Event := []
  subscribeFault : Option Fault := none
  enumerateFault : Option Fault := none
  closeFault : Option Fault := none
deriving Inhabited

namespace ScriptedSource

def subscribe : Act ScriptedSource Unit := do
  Act.note .subscribe
  let s ← Act.state
  Act.failing s.subscribeFault

def enumerate : Act ScriptedSource Listing := do
  Act.note .enumerate
  let s ← Act.state
  return { events := s.present, failure := s.enumerateFault }

def close : Act ScriptedSource Unit := do
  Act.note .closeHotplug
  let s ← Act.state
  Act.failing s.closeFault

instance : UeventSource ScriptedSource where
  subscribe := subscribe
  enumerate := enumerate
  poll := pure ()
  close := close

end ScriptedSource

end GpioBroker
