import ExecUnit.Layout.Basic

/-!
The layout of Gen4 through Gen7. Jump targets moved from generation to
generation, so they have several fields here.
-/

namespace ExecUnit.Layout.Gen4

def header : HeaderFields where
  opcode := .span "opcode" 6 0
  accessMode := .bit "access_mode" 8
  maskControl := .bit "mask_control" 9
  dependencyControl := .span "dep_control" 11 10
  nibbleControl := .bit "nib_control" 47
  quarterControl := .span "qtr_control" 13 12
  threadControl := .span "thread_control" 15 14
  predicateControl := .span "pred_control" 19 16
  predicateInverse := .bit "pred_inv" 20
  execSize := .span "exec_size" 23 21
  modifier := .span "cond_modifier" 27 24
  accWriteControl := .bit "acc_wr_control" 28
  compactControl := .bit "cmpt_control" 29
  debugControl := .bit "debug_control" 30
  saturate := .bit "saturate" 31
  flag := ⟨.bit "flag_reg_nr" 90, .bit "flag_subreg_nr" 89⟩

def dstOffset : Field := .span "dst_ia1_addr_imm" 57 48

def dstAddress : AddressFields where
  subreg := .span "dst_ia_subreg_nr" 60 58
  offset := ⟨[dstOffset]⟩

def dst : DestinationFields where
  file := .span "dst_reg_file" 33 32
  type := .span "dst_reg_type" 36 34
  addressMode := .bit "dst_address_mode" 63
  number := .span "dst_da_reg_nr" 60 53
  byteOffset := .span "dst_da1_subreg_nr" 52 48
  halfOffset := .bit "dst_da16_subreg_nr" 52
  hstride := .span "dst_da1_hstride" 62 61
  writeMask := .span "da16_writemask" 51 48
  address := dstAddress

def src0Offset : Field := .span "src0_ia1_addr_imm" 73 64

def src0Address : AddressFields where
  subreg := .span "src0_ia_subreg_nr" 76 74
  offset := ⟨[src0Offset]⟩

def src0 : SourceFields where
  file := .span "src0_reg_file" 38 37
  type := .span "src0_reg_type" 41 39
  addressMode := .bit "src0_address_mode" 79
  number := .span "src0_da_reg_nr" 76 69
  byteOffset := .span "src0_da1_subreg_nr" 68 64
  halfOffset := .bit "src0_da16_subreg_nr" 68
  hstride := .span "src0_da1_hstride" 81 80
  width := .span "src0_da1_width" 84 82
  vstride := .span "src0_vert_stride" 88 85
  abs := .bit "src0_abs" 77
  negate := .bit "src0_negate" 78
  swizzleX := .span "src0_da16_swiz_x" 65 64
  swizzleY := .span "src0_da16_swiz_y" 67 66
  swizzleZ := .span "src0_da16_swiz_z" 81 80
  swizzleW := .span "src0_da16_swiz_w" 83 82
  address := src0Address

def src1Offset : Field := .span "src1_ia1_addr_imm" 105 96

def src1Address : AddressFields where
  subreg := .span "src1_ia_subreg_nr" 108 106
  offset := ⟨[src1Offset]⟩

def src1 : SourceFields where
  file := .span "src1_reg_file" 43 42
  type := .span "src1_reg_type" 46 44
  addressMode := .bit "src1_address_mode" 111
  number := .span "src1_da_reg_nr" 108 101
  byteOffset := .span "src1_da1_subreg_nr" 100 96
  halfOffset := .bit "src1_da16_subreg_nr" 100
  hstride := .span "src1_da1_hstride" 113 112
  width := .span "src1_da1_width" 116 114
  vstride := .span "src1_vert_stride" 120 117
  abs := .bit "src1_abs" 109
  negate := .bit "src1_negate" 110
  swizzleX := .span "src1_da16_swiz_x" 97 96
  swizzleY := .span "src1_da16_swiz_y" 99 98
  swizzleZ := .span "src1_da16_swiz_z" 113 112
  swizzleW := .span "src1_da16_swiz_w" 115 114
  address := src1Address

def src0TripleSubreg : Field := .span "src0_3src_subreg_nr" 75 73

def src0Triple : TripleSourceFields where
  replicate := .bit "src0_3src_rep_ctrl" 64
  swizzle := .span "src0_3src_swizzle" 72 65
  number := .span "src0_3src_reg_nr" 83 76
  abs := .bit "src0_3src_abs" 36
  negate := .bit "src0_3src_negate" 37
  subreg := ⟨[src0TripleSubreg]⟩

def src1TripleSubregLow : Field := .span "src1_3src_subreg_nr_low" 95 94

def src1TripleSubregHigh : Field := .bit "src1_3src_subreg_nr_high" 96

def src1Triple : TripleSourceFields where
  replicate := .bit "src1_3src_rep_ctrl" 85
  swizzle := .span "src1_3src_swizzle" 93 86
  number := .span "src1_3src_reg_nr" 104 97
  abs := .bit "src1_3src_abs" 38
  negate := .bit "src1_3src_negate" 39
  subreg := ⟨[src1TripleSubregLow, src1TripleSubregHigh]⟩

def src2TripleSubreg : Field := .span "src2_3src_subreg_nr" 117 115

def src2Triple : TripleSourceFields where
  replicate := .bit "src2_3src_rep_ctrl" 106
  swizzle := .span "src2_3src_swizzle" 114 107
  number := .span "src2_3src_reg_nr" 125 118
  abs := .bit "src2_3src_abs" 40
  negate := .bit "src2_3src_negate" 41
  subreg := ⟨[src2TripleSubreg]⟩

def triple : TripleFields where
  flag := ⟨.bit "flag_reg_nr_3src" 34, .bit "flag_subreg_nr_3src" 33⟩
  number := .span "dst_3src_reg_nr" 63 56
  subreg := .span "dst_3src_subreg_nr" 55 53
  writeMask := .span "dst_3src_writemask" 52 49
  type := .span "dst_3src_type" 45 44
  sourceType := .span "src_3src_type" 43 42
  src0 := src0Triple
  src1 := src1Triple
  src2 := src2Triple

def jip7 : Field := .span "gen7_jip" 111 96

def uip7 : Field := .span "gen7_uip" 127 112

def jump6 : Field := .span "gen6_jump_count" 63 48

def jump4 : Field := .span "gen4_jump_count" 111 96

def pop4 : Field := .span "gen4_pop_count" 115 112

def fields : List Field :=
  [header.opcode, header.accessMode, header.maskControl, header.dependencyControl,
    header.quarterControl, header.threadControl, header.predicateControl,
    header.predicateInverse, header.execSize, header.modifier, header.accWriteControl,
    header.compactControl, header.debugControl, header.saturate, dst.file, dst.type, src0.file,
    src0.type, src1.file, src1.type, header.nibbleControl, dst.byteOffset, dst.halfOffset,
    dst.writeMask, dst.number, dst.hstride, dst.addressMode, src0.byteOffset, src0.halfOffset,
    src0.swizzleX, src0.swizzleY, src0.number, src0.abs, src0.negate, src0.addressMode,
    src0.hstride, src0.swizzleZ, src0.width, src0.swizzleW, src0.vstride, header.flag.subreg,
    header.flag.number, src1.byteOffset, src1.halfOffset, src1.swizzleX, src1.swizzleY,
    src1.number, src1.abs, src1.negate, src1.addressMode, src1.hstride, src1.swizzleZ,
    src1.width, src1.swizzleW, src1.vstride, triple.flag.subreg, triple.flag.number,
    src0Triple.abs, src0Triple.negate, src1Triple.abs, src1Triple.negate, src2Triple.abs,
    src2Triple.negate, triple.sourceType, triple.type, triple.writeMask, triple.subreg,
    triple.number, src0Triple.replicate, src0Triple.swizzle, src0TripleSubreg,
    src0Triple.number, src1Triple.replicate, src1Triple.swizzle, src1TripleSubregLow,
    src1TripleSubregHigh, src1Triple.number, src2Triple.replicate, src2Triple.swizzle,
    src2TripleSubreg, src2Triple.number, dstOffset, dstAddress.subreg, src0Offset,
    src0Address.subreg, src1Offset, src1Address.subreg, jip7, uip7, jump6, jump4, pop4]

end ExecUnit.Layout.Gen4

namespace ExecUnit.Layout

def gen4 : Layout where
  title := "Gen4"
  header := Gen4.header
  dst := Gen4.dst
  src0 := Gen4.src0
  src1 := Gen4.src1
  triple := Gen4.triple

end ExecUnit.Layout
