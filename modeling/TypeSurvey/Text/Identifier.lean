import TypeSurvey.Text.Printable

/-!
# Identifier characters

The characters with which an identifier may start, and those with which it may go on, after the
derived properties of Unicode; the underscore starts an identifier. In the tables the runs behind
U+3000 are packed.
-/

namespace TypeSurvey.Text

/-- The runs of code points beyond ASCII that may start an identifier. -/
def identifierStartRuns : List Nat :=
  [170, 1, 10, 1, 4, 1, 5, 23, 1, 31, 1, 458, 4, 12, 14, 5, 7, 1, 1, 1, 129, 5, 1, 2, 3, 3, 1, 1, 6,
    1, 1, 3, 1, 1, 1, 20, 1, 83, 1, 139, 8, 166, 1, 38, 2, 1, 6, 41, 71, 27, 4, 4, 45, 43, 35, 2, 1,
    99, 1, 1, 15, 2, 7, 2, 10, 3, 2, 1, 16, 1, 1, 30, 29, 89, 11, 1, 24, 33, 9, 2, 4, 1, 5, 22, 4,
    1, 9, 1, 3, 1, 23, 25, 7, 11, 5, 24, 1, 6, 17, 42, 58, 54, 3, 1, 18, 1, 7, 10, 15, 16, 4, 8, 2,
    2, 2, 22, 1, 7, 1, 1, 3, 4, 3, 1, 16, 1, 13, 2, 1, 3, 14, 2, 10, 1, 8, 6, 4, 2, 2, 22, 1, 7, 1,
    2, 1, 2, 1, 2, 31, 4, 1, 1, 19, 3, 16, 9, 1, 3, 1, 22, 1, 7, 1, 2, 1, 5, 3, 1, 18, 1, 15, 2, 23,
    1, 11, 8, 2, 2, 2, 22, 1, 7, 1, 2, 1, 5, 3, 1, 30, 2, 1, 3, 15, 1, 17, 1, 1, 6, 3, 3, 1, 4, 3,
    2, 1, 1, 1, 2, 3, 2, 3, 3, 3, 12, 22, 1, 52, 8, 1, 3, 1, 23, 1, 16, 3, 1, 26, 3, 2, 1, 2, 2, 30,
    1, 4, 8, 1, 3, 1, 23, 1, 10, 1, 5, 3, 1, 31, 2, 1, 2, 15, 2, 17, 9, 1, 3, 1, 41, 2, 1, 16, 1, 5,
    3, 8, 3, 24, 6, 5, 18, 3, 24, 1, 9, 1, 1, 2, 7, 58, 48, 1, 1, 13, 7, 58, 2, 1, 1, 1, 5, 1, 24,
    1, 1, 1, 10, 1, 1, 10, 1, 2, 5, 1, 1, 21, 4, 32, 1, 63, 8, 1, 36, 27, 5, 115, 43, 20, 1, 16, 6,
    4, 4, 3, 1, 3, 2, 7, 3, 4, 13, 12, 1, 17, 38, 1, 1, 5, 1, 2, 43, 1, 333, 1, 4, 2, 7, 1, 1, 1, 4,
    2, 41, 1, 4, 2, 33, 1, 4, 2, 7, 1, 1, 1, 4, 2, 15, 1, 57, 1, 4, 2, 67, 37, 16, 16, 86, 2, 6, 3,
    620, 2, 17, 1, 26, 5, 75, 3, 11, 7, 18, 13, 19, 14, 18, 14, 13, 1, 3, 15, 52, 35, 1, 4, 1, 67,
    89, 7, 41, 1, 1, 5, 70, 10, 31, 49, 30, 2, 5, 11, 44, 4, 26, 54, 23, 9, 53, 82, 1, 93, 47, 17,
    8, 54, 30, 13, 2, 10, 44, 26, 36, 41, 3, 10, 36, 2, 9, 7, 43, 2, 3, 41, 4, 1, 6, 1, 2, 3, 1, 5,
    192, 64, 278, 2, 6, 2, 38, 2, 6, 2, 8, 1, 1, 1, 1, 1, 1, 1, 31, 2, 53, 1, 7, 1, 1, 3, 3, 1, 7,
    3, 4, 2, 6, 4, 13, 5, 3, 1, 7, 116, 1, 13, 1, 16, 13, 101, 1, 4, 1, 2, 10, 1, 1, 2, 6, 6, 1, 1,
    1, 1, 1, 1, 16, 2, 4, 5, 5, 4, 1, 17, 41, 2679, 229, 6, 4, 3, 2, 12, 38, 1, 1, 5, 1, 2, 56, 7,
    1, 16, 23, 9, 7, 1, 7, 1, 7, 1, 7, 1, 7, 1, 7, 1, 7, 1, 7, 550, 3] ++ readNumbers (String.toList
  "ZJHFCFE~BAGDB~BEBEF*B~BIR6/Q~Fw~q^e@ACz]h-C~DLDQKCU.Q5Cu%JC~BRCeFCBBBFYQBDBEBX3>O<cGDBBCL2KXZ3H
.2BQFBKKFB(XDBIUXDBD<BBDCCFCBBBYDCLHDMGCGCGJHBHB*BOG~B33@AB*sMXE:@ABMY~EWC~BU$HMFFBBKBNBFBBBCBCB~BW7
~B?G~C-SeC[&K~B7BBBDBBBBBBBB~B&!0G0L^C5DGCGCGCD9MB0BTBCBPCO8~B#j?~DJ3D:.6N4F$K4C!EIBF)~BmS!E!E&I>MLB
PBHBCBLBPBHBCh~D?JWKIYGB)BJjGCBB+BCDBCXKXJ5fTBCKWK0k^GCeBPEBDB3)3D39IB21[KWKTNS~BYn]=N=N!~EE)GCs3KBI
W)S-V1XM?_CCBN,6Z0!3BCBI9DBM/OEVBBB9SBZyHBBBEBPBKH.$ICCCWBHBCBFDBSBMF~Bm?SEUD4/UCBB~CM.(E!/UB;*NBl1#
H~CN+~B4e5ICBCIBCBYPBBB~BIIC%QBBB2BK&HBVBL-TBSn~DFJB#RB:4~B0HBCB$VBZGBCB6OB~DjT~CRBt~Kc~BQ~BZR~CY~4^
~BLP~M%~.H~Gh@ABO7~G?H5RtR4S/QE5VFT~IAe~B)pFBgNeCBB2~l4I~O8)J@ABRrEBHBCB~D7,DREI~E>~0m~BVFNDJHK~j^zB
lBCCBCCCEBMBBBHBfBECIBHB2BEBFBBDHB~DwCZBZB5BZB5BZB5BZB5BZBI~V$5~F=,KHQB~Dd4S+~OeHBEBCBPB~CZ;iHB~OAEB
1BCBBCBBKBEBBBBGBEBBBBBBDBCBBCBBBBBBBBBBCBBCEBHBEBEBBBKBRFDBFBR~=8@AFge6~/ZH~C<C~hAO@ABAr~!H~G0~R+
~_#")

/-- The runs of further code points beyond ASCII that may continue an identifier. -/
def identifierExtendRuns : List Nat :=
  [183, 1, 584, 112, 23, 1, 251, 5, 265, 45, 1, 1, 1, 2, 1, 2, 1, 1, 72, 11, 48, 31, 6, 1, 101, 7,
    2, 6, 2, 2, 1, 4, 2, 10, 23, 1, 30, 27, 91, 11, 15, 10, 33, 9, 9, 1, 24, 4, 1, 9, 1, 3, 1, 5,
    43, 3, 60, 8, 42, 24, 1, 33, 54, 3, 1, 18, 1, 7, 10, 2, 2, 10, 17, 3, 56, 1, 1, 7, 2, 2, 2, 3,
    9, 1, 10, 2, 2, 10, 14, 1, 2, 3, 56, 1, 1, 5, 4, 2, 2, 3, 3, 1, 20, 12, 3, 1, 11, 3, 56, 1, 1,
    8, 1, 3, 1, 3, 20, 2, 2, 10, 10, 6, 1, 3, 56, 1, 1, 7, 2, 2, 2, 3, 7, 3, 10, 2, 2, 10, 18, 1,
    59, 5, 3, 3, 1, 4, 9, 1, 14, 10, 16, 5, 55, 1, 1, 7, 1, 3, 1, 4, 7, 2, 11, 2, 2, 10, 17, 3, 56,
    1, 1, 7, 1, 3, 1, 4, 7, 2, 11, 2, 2, 10, 16, 4, 55, 2, 1, 7, 1, 3, 1, 4, 9, 1, 10, 2, 2, 10, 17,
    3, 70, 1, 4, 6, 1, 1, 1, 8, 6, 10, 2, 2, 61, 1, 1, 8, 12, 8, 1, 10, 87, 1, 1, 10, 11, 6, 2, 10,
    62, 2, 6, 10, 11, 1, 1, 1, 1, 1, 4, 2, 49, 20, 1, 2, 5, 11, 1, 36, 9, 1, 100, 20, 1, 10, 12, 4,
    4, 3, 1, 3, 2, 7, 3, 4, 13, 12, 1, 15, 703, 3, 9, 9, 928, 4, 28, 3, 29, 2, 30, 2, 64, 32, 9, 1,
    2, 10, 33, 3, 1, 11, 143, 1, 118, 12, 4, 12, 10, 10, 128, 11, 60, 5, 57, 10, 1, 29, 2, 11, 6,
    10, 22, 14, 1, 16, 49, 5, 47, 17, 11, 10, 17, 9, 12, 3, 30, 13, 2, 10, 44, 14, 48, 20, 8, 10, 6,
    10, 118, 3, 1, 21, 4, 1, 6, 1, 2, 3, 198, 64, 575, 2, 19, 1, 123, 13, 4, 1, 3, 12, 3070, 3, 141,
    1, 96, 32, 554, 6] ++ readNumbers (String.toList
  "~BTC@AEFlKjBEK6CuC~DOBDBEBXFEBxC<SKKGSNL2IZN+E.OPKLBKK.OMBICCK7D<BBDCCFCBB(FFC~CeIBCCK@ACd<B~I:
QQQDCYD~CUK#B~BIC~HDB~C[B~BdF~D9K~PrDBCFE&DEB~BtC~G_EIK~EZC~BhL:E~B!D?P5LCCKE,LHB,KGD!OBKFC+BMD/OIEB
MwMGB~BoMFKGE]CBHCCCDJBKCCHDF~CUSJKEBvUMK~C(HCJ1CwRPKvNIKxPEK~CkP~BtKkGBCCEBBBCMK~B7HCHDB2K&HBEIBJL-
Q~EbIBIQK^WBO~B!GDBBCBHBBIK/FBCBFIK~DlE@AC>(K~BAK$F;HZK~LhBB]HEvBLC@AC^TC~[b-CX~G0FDGIICH4E~BcD~Q(<
~Fw]E<IBOBWFBP~PkHBRCHBCBF~DDHJK~EMBbO~R6H~BXHFK~]2K@BU*+~Ci")

/-- Whether an identifier may start with this character. -/
def isIdentifierStart (letter : Char) : Bool :=
  if letter.toNat < 128 then letter.isAlpha || letter == '_'
  else inRuns letter.toNat identifierStartRuns

/-- Whether an identifier may go on with this character. -/
def isIdentifierContinue (letter : Char) : Bool :=
  if letter.toNat < 128 then letter.isAlphanum || letter == '_'
  else
    inRuns letter.toNat identifierStartRuns || inRuns letter.toNat identifierExtendRuns

def isIdentifier : Text → Bool
  | [] => false
  | first :: rest => isIdentifierStart first && rest.all isIdentifierContinue

end TypeSurvey.Text
