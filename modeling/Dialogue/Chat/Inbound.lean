import Dialogue.Json.Basic

set_option autoImplicit false

namespace Dialogue

structure Inbound where
  channel : String
  sender : String
  chat : String
  content : String
  metadata : List (String × Json) := []

def Inbound.ofText (channel content : String) : Inbound :=
  { channel, sender := "local", chat := "local", content }

end Dialogue
