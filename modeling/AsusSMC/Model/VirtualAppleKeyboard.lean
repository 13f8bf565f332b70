import AsusSMC.Model.HIDReport

/-!
# The virtual keyboard

`VirtualAppleKeyboard/VirtualAppleKeyboard.cpp`: the device the driver hands its reports
to. Its report descriptor tells the HID system what they mean: a report carries one byte
for its id and 32 slots, and a slot holds a usage of one page. Reports `2` and `3` are
those the driver keeps; nobody posts the other two the descriptor declares.
-/

namespace AsusSMC

/-- `virt_reportDescriptor`. -/
def virtReportDescriptor : List UInt8 :=
  [ -- keyboard, report 1: eight modifiers, a byte of padding, 32 keys
    0x05, 0x01, 0x09, 0x06, 0xa1, 0x01, 0x85, 0x01, 0x05, 0x07, 0x19, 0xe0, 0x29, 0xe7, 0x15, 0x00,
    0x25, 0x01, 0x75, 0x01, 0x95, 0x08, 0x81, 0x02, 0x95, 0x01, 0x75, 0x08, 0x81, 0x01, 0x95, 0x20,
    0x75, 0x08, 0x15, 0x00, 0x26, 0xff, 0x00, 0x05, 0x07, 0x19, 0x00, 0x29, 0xff, 0x81, 0x00, 0xc0,
    -- consumer control, report 2
    0x05, 0x0c, 0x09, 0x01, 0xa1, 0x01, 0x85, 0x02, 0x05, 0x0c, 0x95, 0x20, 0x75, 0x08, 0x15, 0x00,
    0x26, 0xff, 0x00, 0x19, 0x00, 0x29, 0xff, 0x81, 0x00, 0xc0,
    -- top case of the Apple vendor page, report 3
    0x06, 0x00, 0xff, 0x09, 0x01, 0xa1, 0x01, 0x85, 0x03, 0x05, 0xff, 0x95, 0x20, 0x75, 0x08, 0x15,
    0x00, 0x26, 0xff, 0x00, 0x19, 0x00, 0x29, 0xff, 0x81, 0x00, 0xc0,
    -- keyboard backlight of the Apple vendor page, report 191
    0x06, 0x00, 0xff, 0x09, 0x0f, 0xa1, 0x01, 0x85, 0xbf, 0x06, 0x00, 0xff, 0x95, 0x20, 0x75, 0x08,
    0x15, 0x00, 0x26, 0xff, 0x00, 0x19, 0x00, 0x29, 0xff, 0x81, 0x00, 0xc0]

/-- `newReportDescriptor`. -/
def VirtualAppleKeyboard.newReportDescriptor : List UInt8 := virtReportDescriptor

/-- The memory image of a report. The classes are packed, so the slots come right after
the id. -/
def Report.toBytes (r : Report) : List UInt8 := r.reportId :: r.keys.raw

end AsusSMC
