import ExecUnit.Layout.Basic

/-!
Where message descriptors keep their fields. The descriptor changed with every
generation or two; a generation that lacks a field has `none` for it.
-/

namespace ExecUnit

structure MessageFields where
  sfid : Field
  eot : Field
  length : Field
  responseLength : Field
  headerPresent : Option Field
  functionControl : Field
  samplerBindingTable : Field
  sampler : Field
  samplerType : Field
  samplerMode : Field
  urbOpcode : Field
  urbOffset : Field
  urbInterleave : Option Field
  urbPerSlotOffset : Option Field
  urbComplete : Option Field
  dataportBindingTable : Field
  mathFunction : Option Field

/-- From Gen6 on the shared function shares its header bits with the
conditional modifier. -/
def headerSfid : Field := .span "sfid" 27 24

namespace Gen4Message

def eot : Field := .bit "eot" 127
def sfid : Field := .span "msg_target" 123 120
def length : Field := .span "mlen" 119 116
def responseLength : Field := .span "rlen" 115 112
def functionControl : Field := .span "function_control" 111 96
def urbComplete : Field := .bit "urb_complete" 111
def urbUsed : Field := .bit "urb_used" 110
def urbAllocate : Field := .bit "urb_allocate" 109
def urbSwizzleControl : Field := .span "urb_swizzle_control" 107 106
def urbOffset : Field := .span "urb_offset" 105 100
def urbOpcode : Field := .span "urb_opcode" 99 96
def samplerType : Field := .span "sampler_msg_type" 111 110
def samplerMode : Field := .span "sampler_return_format" 109 108
def sampler : Field := .span "sampler" 107 104
def samplerBindingTable : Field := .span "sampler_binding_table_index" 103 96
def dataportBindingTable : Field := .span "dp_binding_table_index" 103 96
def mathFunction : Field := .span "math_function" 99 96

def fields : List Field :=
  [eot, sfid, length, responseLength, functionControl, urbComplete, urbUsed, urbAllocate,
    urbSwizzleControl, urbOffset, urbOpcode, samplerType, samplerMode, sampler,
    samplerBindingTable, dataportBindingTable, mathFunction]

def messageFields : MessageFields where
  sfid := sfid
  eot := eot
  length := length
  responseLength := responseLength
  headerPresent := none
  functionControl := functionControl
  samplerBindingTable := samplerBindingTable
  sampler := sampler
  samplerType := samplerType
  samplerMode := samplerMode
  urbOpcode := urbOpcode
  urbOffset := urbOffset
  urbInterleave := none
  urbPerSlotOffset := none
  urbComplete := some urbComplete
  dataportBindingTable := dataportBindingTable
  mathFunction := some mathFunction

end Gen4Message

namespace Gen5Message

def eot : Field := .bit "eot" 127
def length : Field := .span "mlen" 124 121
def responseLength : Field := .span "rlen" 120 116
def headerPresent : Field := .bit "header_present" 115
def functionControl : Field := .span "function_control" 114 96
def sfid : Field := .span "sfid" 95 92
def urbComplete : Field := .bit "urb_complete" 111
def urbUsed : Field := .bit "urb_used" 110
def urbAllocate : Field := .bit "urb_allocate" 109
def urbSwizzleControl : Field := .span "urb_swizzle_control" 107 106
def urbOffset : Field := .span "urb_offset" 105 100
def urbOpcode : Field := .span "urb_opcode" 99 96
def samplerMode : Field := .span "sampler_simd_mode" 113 112
def samplerType : Field := .span "sampler_msg_type" 111 108
def sampler : Field := .span "sampler" 107 104
def samplerBindingTable : Field := .span "sampler_binding_table_index" 103 96
def dataportBindingTable : Field := .span "dp_binding_table_index" 103 96
def mathFunction : Field := .span "math_function" 99 96

def fields : List Field :=
  [eot, length, responseLength, headerPresent, functionControl, sfid, urbComplete, urbUsed,
    urbAllocate, urbSwizzleControl, urbOffset, urbOpcode, samplerMode, samplerType, sampler,
    samplerBindingTable, dataportBindingTable, mathFunction]

def messageFields : MessageFields where
  sfid := sfid
  eot := eot
  length := length
  responseLength := responseLength
  headerPresent := some headerPresent
  functionControl := functionControl
  samplerBindingTable := samplerBindingTable
  sampler := sampler
  samplerType := samplerType
  samplerMode := samplerMode
  urbOpcode := urbOpcode
  urbOffset := urbOffset
  urbInterleave := none
  urbPerSlotOffset := none
  urbComplete := some urbComplete
  dataportBindingTable := dataportBindingTable
  mathFunction := some mathFunction

end Gen5Message

namespace Gen7Message

def eot : Field := .bit "eot" 127
def length : Field := .span "mlen" 124 121
def responseLength : Field := .span "rlen" 120 116
def headerPresent : Field := .bit "header_present" 115
def functionControl : Field := .span "function_control" 114 96
def urbPerSlotOffset : Field := .bit "urb_per_slot_offset" 112
def urbComplete : Field := .bit "urb_complete" 111
def urbInterleave : Field := .bit "urb_interleave" 110
def urbOffset : Field := .span "urb_global_offset" 109 99
def urbOpcode : Field := .span "urb_opcode" 98 96
def samplerMode : Field := .span "sampler_simd_mode" 114 113
def samplerType : Field := .span "sampler_msg_type" 112 108
def sampler : Field := .span "sampler" 107 104
def samplerBindingTable : Field := .span "sampler_binding_table_index" 103 96
def dataportCategory : Field := .bit "dp_category" 114
def dataportType : Field := .span "dp_message_type" 113 110
def dataportControl : Field := .span "dp_message_control" 109 104
def dataportBindingTable : Field := .span "dp_binding_table_index" 103 96

def fields : List Field :=
  [eot, length, responseLength, headerPresent, functionControl, urbPerSlotOffset, urbComplete,
    urbInterleave, urbOffset, urbOpcode, samplerMode, samplerType, sampler,
    samplerBindingTable, dataportCategory, dataportType, dataportControl, dataportBindingTable]

def messageFields : MessageFields where
  sfid := headerSfid
  eot := eot
  length := length
  responseLength := responseLength
  headerPresent := some headerPresent
  functionControl := functionControl
  samplerBindingTable := samplerBindingTable
  sampler := sampler
  samplerType := samplerType
  samplerMode := samplerMode
  urbOpcode := urbOpcode
  urbOffset := urbOffset
  urbInterleave := some urbInterleave
  urbPerSlotOffset := some urbPerSlotOffset
  urbComplete := some urbComplete
  dataportBindingTable := dataportBindingTable
  mathFunction := none

end Gen7Message

namespace Gen8Message

def eot : Field := .bit "eot" 127
def length : Field := .span "mlen" 124 121
def responseLength : Field := .span "rlen" 120 116
def headerPresent : Field := .bit "header_present" 115
def functionControl : Field := .span "function_control" 114 96
def urbPerSlotOffset : Field := .bit "urb_per_slot_offset" 113
def urbInterleave : Field := .bit "urb_interleave" 111
def urbOffset : Field := .span "urb_global_offset" 110 100
def urbOpcode : Field := .span "urb_opcode" 99 96
def samplerMode : Field := .span "sampler_simd_mode" 114 113
def samplerType : Field := .span "sampler_msg_type" 112 108
def sampler : Field := .span "sampler" 107 104
def samplerBindingTable : Field := .span "sampler_binding_table_index" 103 96
def dataportCategory : Field := .bit "dp_category" 114
def dataportType : Field := .span "dp_message_type" 113 110
def dataportControl : Field := .span "dp_message_control" 109 104
def dataportBindingTable : Field := .span "dp_binding_table_index" 103 96
def spawnerOpcode : Field := .bit "ts_opcode" 96
def spawnerRequestType : Field := .bit "ts_request_type" 97
def spawnerResourceSelect : Field := .bit "ts_resource_select" 100
def vmeType : Field := .span "vme_message_type" 110 109
def extended3to0 : Field := .span "extdesc_3_0" 67 64
def extended7to4 : Field := .span "extdesc_7_4" 83 80
def extended11to8 : Field := .span "extdesc_11_8" 88 85
def extended15to12 : Field := .span "extdesc_15_12" 94 91

def fields : List Field :=
  [eot, length, responseLength, headerPresent, functionControl, urbPerSlotOffset,
    urbInterleave, urbOffset, urbOpcode, samplerMode, samplerType, sampler,
    samplerBindingTable, dataportCategory, dataportType, dataportControl, dataportBindingTable,
    spawnerOpcode, spawnerRequestType, spawnerResourceSelect, vmeType, extended3to0,
    extended7to4, extended11to8, extended15to12]

/-- Bits 31:16 of the extended descriptor of Gen9, scattered over word 2. -/
def extendedDescriptor : SplitField :=
  ⟨[extended3to0, extended7to4, extended11to8, extended15to12]⟩

def messageFields : MessageFields where
  sfid := headerSfid
  eot := eot
  length := length
  responseLength := responseLength
  headerPresent := some headerPresent
  functionControl := functionControl
  samplerBindingTable := samplerBindingTable
  sampler := sampler
  samplerType := samplerType
  samplerMode := samplerMode
  urbOpcode := urbOpcode
  urbOffset := urbOffset
  urbInterleave := some urbInterleave
  urbPerSlotOffset := some urbPerSlotOffset
  urbComplete := none
  dataportBindingTable := dataportBindingTable
  mathFunction := none

end Gen8Message

end ExecUnit
