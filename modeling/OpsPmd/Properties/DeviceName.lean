import OpsPmd.Plug
import OpsPmd.Lib.CBuffer

/-!
# The device name of the diagnostics page

`pm_read_a2` puts the name together on the stack and passes the size of its buffer to `strncpy` and
to `strncat`. That is not the room there is: the first leaves out the terminator of a name that
fills the buffer, and the second counts what it takes and not where it stores.

* `a2NameBuffer` — the buffer after the calls, store by store
* `a2DeviceName_eq` — `a2DeviceName` is the string in it, where no store went beyond it
* `namesA2_iff` — how long a name may be
-/

namespace OpsPmd

open CText CBuffer

variable {port : PortId} {stack : Nat → Char} {bus : Bus}

/--
`a2_device_name` with what was on the stack before and behind it, `none` where `strncat` leaves it
in search of a terminator.
-/
def a2NameBuffer (port : PortId) (stack : Nat → Char) : Option CBuffer :=
  let name := ({ mem := stack } : CBuffer).strncpy port.moduleDevice.moduleEeprom.toList
    MAX_DEVICE_NAME_LEN
  if port.moduleDevice.hasConnector CONNECTOR_SFP_PLUS then
    name.strncat MAX_DEVICE_NAME_LEN "_dom".toList MAX_DEVICE_NAME_LEN
  else some name

/-- `strncpy` stores all over the buffer and nowhere else. -/
theorem inBounds_copy (port : PortId) (stack : Nat → Char) :
    (({ mem := stack } : CBuffer).strncpy port.moduleDevice.moduleEeprom.toList
      MAX_DEVICE_NAME_LEN).InBounds MAX_DEVICE_NAME_LEN :=
  inBounds_strncpy (fun _ hi => by cases hi) _

/-- **The name is the string in the buffer, if no store went beyond it.** -/
theorem a2DeviceName_eq (port : PortId) (stack : Nat → Char) :
    a2DeviceName port =
      ((a2NameBuffer port stack).filter fun b => b.InBounds MAX_DEVICE_NAME_LEN).bind
        fun b => b.string MAX_DEVICE_NAME_LEN := by
  have hin := inBounds_copy port stack
  unfold a2DeviceName a2NameBuffer
  generalize MAX_DEVICE_NAME_LEN = size at hin ⊢
  dsimp only
  rw [← contents_strncpy { mem := stack }]
  split
  · rw [contents_strncat hin, Option.bind_map]
    simp only [Function.comp_def, bufferString_contents]
  · rw [bufferString_contents, Option.filter_some, if_pos (decide_eq_true hin), Option.bind_some]

/-! ## What a call should do -/

/-- The name of the device to be read. -/
def a2Name (port : PortId) : String :=
  if port.moduleDevice.hasConnector CONNECTOR_SFP_PLUS then
    port.moduleDevice.moduleEeprom ++ "_dom"
  else port.moduleDevice.moduleEeprom

/-- A call stays in its buffer, leaves a string there, and looks up the right name if any. -/
structure NamesA2 (port : PortId) (stack : Nat → Char) (bus : Bus) : Prop where
  buffer : ∃ b, a2NameBuffer port stack = some b ∧ b.InBounds MAX_DEVICE_NAME_LEN ∧
    (b.strlen MAX_DEVICE_NAME_LEN).isSome
  lookup : (∃ answer, (pmReadA2 port bus).2.trace =
      bus.trace ++ [(.dataRead port.subsystem (some (a2Name port)) 0, answer)]) ∨
    ((pmReadA2 port bus).1 = none ∧ (pmReadA2 port bus).2.trace = bus.trace)

/-! ## The length of the name -/

/-- On SFP+ ports a name that `strncpy` terminates gets its suffix, wherever that goes. -/
theorem a2NameBuffer_of_sfp (hplain : NUL ∉ port.moduleDevice.moduleEeprom.toList)
    (hsfp : port.moduleDevice.hasConnector CONNECTOR_SFP_PLUS = true)
    (hlen : port.moduleDevice.moduleEeprom.length < MAX_DEVICE_NAME_LEN) (stack : Nat → Char) :
    ∃ b, a2NameBuffer port stack = some b ∧ b.Text (a2Name port).toList ∧
      b.stores =
        List.range MAX_DEVICE_NAME_LEN ++ List.range' port.moduleDevice.moduleEeprom.length 5 := by
  have hdom : "_dom".toList.take MAX_DEVICE_NAME_LEN = "_dom".toList := by decide +kernel
  rw [← String.length_toList] at hlen
  obtain ⟨b, hb, htext, hstores⟩ := strncat_of_text (s := "_dom".toList) (n := MAX_DEVICE_NAME_LEN)
    (text_strncpy (b := { mem := stack }) hplain hlen) hlen (by decide)
  rw [hdom] at htext hstores
  refine ⟨b, ?_, ?_, ?_⟩
  · rw [a2NameBuffer, if_pos hsfp]
    exact hb
  · rw [a2Name, if_pos hsfp, String.toList_append]
    exact htext
  · rw [hstores, stores_strncpy, List.nil_append, String.length_toList]
    rfl

theorem length_a2Name_of_sfp (hsfp : port.moduleDevice.hasConnector CONNECTOR_SFP_PLUS = true) :
    (a2Name port).length = port.moduleDevice.moduleEeprom.length + 4 := by
  rw [a2Name, if_pos hsfp, String.length_append]
  rfl

/-- A name that fits with its terminator is in the buffer afterwards. -/
theorem text_a2NameBuffer (hplain : NUL ∉ port.moduleDevice.moduleEeprom.toList)
    (hfit : (a2Name port).length < MAX_DEVICE_NAME_LEN) (stack : Nat → Char) :
    ∃ b, a2NameBuffer port stack = some b ∧ b.InBounds MAX_DEVICE_NAME_LEN ∧
      b.Text (a2Name port).toList := by
  by_cases hsfp : port.moduleDevice.hasConnector CONNECTOR_SFP_PLUS = true
  · rw [length_a2Name_of_sfp hsfp] at hfit
    obtain ⟨b, hb, htext, hstores⟩ := a2NameBuffer_of_sfp hplain hsfp (by omega) stack
    refine ⟨b, hb, ?_, htext⟩
    intro i hi
    rw [hstores] at hi
    rcases List.mem_append.mp hi with hi | hi
    · exact List.mem_range.mp hi
    · obtain ⟨d, hd, rfl⟩ := List.mem_range'.mp hi
      omega
  · rw [a2Name, if_neg hsfp] at hfit ⊢
    rw [a2NameBuffer, if_neg hsfp]
    rw [← String.length_toList] at hfit
    exact ⟨_, rfl, inBounds_copy port stack, text_strncpy hplain hfit⟩

/-- A buffer that is in bounds and terminated holds a name that fits. -/
theorem length_of_buffer (hplain : NUL ∉ port.moduleDevice.moduleEeprom.toList) {b : CBuffer}
    (hb : a2NameBuffer port stack = some b) (hin : b.InBounds MAX_DEVICE_NAME_LEN)
    (hterm : (b.strlen MAX_DEVICE_NAME_LEN).isSome) :
    (a2Name port).length < MAX_DEVICE_NAME_LEN := by
  by_cases hlen : port.moduleDevice.moduleEeprom.length < MAX_DEVICE_NAME_LEN
  · by_cases hsfp : port.moduleDevice.hasConnector CONNECTOR_SFP_PLUS = true
    · -- the last store of `strncat` is that of the terminator
      obtain ⟨b', hb', -, hstores⟩ := a2NameBuffer_of_sfp hplain hsfp hlen stack
      obtain rfl := Option.some.inj (hb.symm.trans hb')
      rw [length_a2Name_of_sfp hsfp]
      refine hin _ ?_
      rw [hstores]
      exact List.mem_append_right _ (List.mem_range'.mpr ⟨4, by omega, by omega⟩)
    · rwa [a2Name, if_neg hsfp]
  · -- nothing terminates the copy
    rw [← String.length_toList] at hlen
    have hnone := strlen_strncpy_of_le (b := { mem := stack }) hplain (Nat.le_of_not_lt hlen)
    unfold a2NameBuffer at hb
    split_ifs at hb
    · rw [CBuffer.strncat, hnone] at hb
      cases hb
    · obtain rfl := Option.some.inj hb
      rw [hnone] at hterm
      cases hterm

/--
**The name is built in bounds and looked up untruncated exactly if it fits into the buffer.** On
SFP+ ports that leaves 1019 bytes for `module_eeprom`.
-/
theorem namesA2_iff (port : PortId) (stack : Nat → Char) (bus : Bus)
    (hplain : NUL ∉ port.moduleDevice.moduleEeprom.toList) :
    NamesA2 port stack bus ↔ (a2Name port).length < MAX_DEVICE_NAME_LEN := by
  constructor
  · rintro ⟨⟨b, hb, hin, hterm⟩, -⟩
    exact length_of_buffer hplain hb hin hterm
  · intro hfit
    obtain ⟨b, hb, hin, htext⟩ := text_a2NameBuffer hplain hfit stack
    have hlen : (a2Name port).toList.length < MAX_DEVICE_NAME_LEN := by rwa [String.length_toList]
    have hname : a2DeviceName port = some (a2Name port) := by
      rw [a2DeviceName_eq port stack, hb, Option.filter_some, if_pos (decide_eq_true hin),
        Option.bind_some, htext.string hlen, String.ofList_toList]
    refine ⟨⟨b, hb, hin, by rw [htext.strlen hlen]; rfl⟩,
      Or.inl ⟨bus.answers bus.trace.length, ?_⟩⟩
    rw [← hname]
    rfl

/-- An SFP+ port with a name of this many bytes. -/
def sfpNamed (n : Nat) : PortId where
  instanceName := "1"
  uuid := 0
  moduleDevice :=
    { ModuleType.sfpPlus.device with moduleEeprom := String.ofList (List.replicate n 'a') }
  subsystem := "base"

theorem plain_sfpNamed (n : Nat) : NUL ∉ (sfpNamed n).moduleDevice.moduleEeprom.toList := by
  intro h
  rw [sfpNamed, String.toList_ofList] at h
  exact absurd (List.eq_of_mem_replicate h) (by decide)

theorem length_sfpNamed (n : Nat) : (a2Name (sfpNamed n)).length = n + 4 := by
  rw [length_a2Name_of_sfp rfl, sfpNamed, String.length_ofList, List.length_replicate]

/-- The longest name that fits. -/
theorem namesA2_longest :
    NamesA2 (sfpNamed 1019) (fun _ => 'x') (Bus.ofList []) ↔ 1019 + 4 < MAX_DEVICE_NAME_LEN := by
  rw [← length_sfpNamed 1019]
  exact namesA2_iff _ _ _ (plain_sfpNamed 1019)

/-- With one byte more the terminator is stored behind the buffer. -/
theorem not_namesA2_longer : ¬NamesA2 (sfpNamed 1020) (fun _ => 'x') (Bus.ofList []) := by
  rintro ⟨⟨b, hb, hin, hterm⟩, -⟩
  have hlen := length_of_buffer (plain_sfpNamed 1020) hb hin hterm
  rw [length_sfpNamed] at hlen
  exact absurd hlen (by decide)

end OpsPmd
