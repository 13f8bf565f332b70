import AsusSMC.Framework.LittleEndian

/-!
# The kernel event server

`KernEventServer/KernEventServer.cpp`: the kext's side of the connection to the
daemon. A message is three `int`s, posted as the three data fragments of one
kernel event.
-/

namespace AsusSMC

/-- `struct kev_msg`: the header fields the poster sets and the data fragments
`dv`, up to the first one of length zero. -/
structure KevMsg where
  vendorCode : UInt32
  kevClass : UInt32
  kevSubclass : UInt32
  eventCode : UInt32
  dv : List (List UInt8)
  deriving DecidableEq, Repr

/-- `KEV_ANY_VENDOR`, `KEV_ANY_CLASS` and `KEV_ANY_SUBCLASS`. -/
def kevAny : UInt32 := 0

structure KernEventServer where
  vendorID : UInt32 := 0
  eventCode : UInt32 := 0
  deriving DecidableEq, Repr

namespace KernEventServer

/-- `setVendorID`: `found` is what `kev_vendor_code_find` found, if anything. -/
def setVendorID (kev : KernEventServer) (found : Option UInt32) : Bool × KernEventServer :=
  match found with
  | none => (false, kev)
  | some id => (true, { kev with vendorID := id })

def setEventCode (kev : KernEventServer) (code : UInt32) : KernEventServer :=
  { kev with eventCode := code }

/-- The message `sendMessage` hands to `kev_msg_post`. -/
def sendMessage (kev : KernEventServer) (type x y : Int32) : KevMsg where
  vendorCode := kev.vendorID
  kevClass := kevAny
  kevSubclass := kevAny
  eventCode := kev.eventCode
  dv := [LittleEndian.ofInt type, LittleEndian.ofInt x, LittleEndian.ofInt y]

end KernEventServer

end AsusSMC
