import TypeSurvey.Text.Digit
import TypeSurvey.Text.Printable

/-!
# Word characters

The letters and numerals of every script, and the underscore.
-/

namespace TypeSurvey.Text

/-- The runs of letters and numerals beyond ASCII. -/
def wordRuns : List Nat := readNumbers <| String.toList
  "~ByBHCBBDCBDBXB5B~F2EMOFHBBB~B*FBCCEBBGBBDBBBUBxB~B?I~BuB$CBG(l1EE,*VKECB~BNBBPCHPCBQBB43~BDLBO*J
CEBFWEBJBDBXZHLFYBGR)|[DBSBHKEKBQEICCCWBHBBDEDBQBNCBDEMCGCBIGECCWBHBCBCBC5EBBHKCDQJBDBWBHBCBFDBSBPCE
KJBLICCCWBHBCBFDB4CBDEKBHLBBGDDBEDCBBBCDCDDDMWBVNSIBDBXBQDB0DCBCCEKIHBBEIBDBXBKBFDB5CBCEKBCRJBDB(CBQ
BFDBKETBGFSDYBJBBCH5KR/BCMHJK%CBBBFBYBBBKBCJBCFBBJKCE6B5UMIB!1F~B3*ULGGEEDBDCHDENMBBKG$BBFBC*B~DpBEC
HBBBEC(BEC7BECHBBBECPB_BEChOUDQQ~BACGD~HSCRB0FpDLHSNTOSONBDP>9BEBDKGKWKG~BDHFC8BBFkK5%&CFL+E0GL#XJ?*
KGKNB~BH.RIDK(4N^0!2KD:CJH*CD(EBGBCDBF~CUe~DUCGC$CGCIBBBBBBB5C?BHBBDDBHDECGENFDBH~B3CCGFLGN~BPBEBCKB
BDFGBBBBBBEBLCEFFEBB|~I$asW~H24~NO~C_GEDCJBC$BBFBC^HBQXJHBHBHBHBHBHBHBHuB~F%DZJHFCFE~BAGDB~BEBEF*B
~BIDEK6/Q6K4IBP6K%P~Dc~q^e@ACz]h-C~DLD2U.Q5Cu%JC~BRCeFCBBBFYQBDBEBXNGK>O<2KYGDBBCB$KXZ3H.2LGFBZB(XDB
IEKGXDBD<BBDCCFCBBBYDCLHDMGCGCGJHBHB*BOG~B3NKG@AB*sMXE:@ABMY~EWC~BU$HMFFBBKBNBFBBBCBCB~BW7~ETSeC[&M
~B4FB~B:TKH0G0L~BDDGCGCGCD9MB0BTBCBPCO8~B#M,M_RC~Cm3D:Q1E!J4F$K4C!EIBF)~BmCKG!E!E&I>MLBPBHBCBLBPBHBC
h~D?JWKIYGB)BJjGCBB+BCDBCXC5C$IJ/TBCF7E0k^EUC.PEBDB3KJX5B66IB2GFQ[KWC1F0XHun]=N=H)MK~D!5B)GCs&IWLE1S
-2UXM?04BCCBN,6ZHKJ!PKEBCBI9DBM/OELLBBEULSBZyHBBBEBPBKH.RKLICCCWBHBCBFDBSBMF~Bm?SEFKFD4/UCBBIK~Bu.(E
!/UBLK$*NBHK[1VMEH~CN+~B4xMICBCIBCBYPBBBOKkIC%QBBB2BK&HBVBL-TBSn~DFJB#RBP3F4~B0HBCB$VBJKGGBCB6OBHK
~D>T~CRBPV*~Kc~BQ~BZR~CY~4^~BLP~M%~.H~Gh@ABO7~G?H5BKGtBKG4S/QEMKBHBVFT~IA~BB~BTpFBgNeCBB2~l4I~O8)J
@ABRrEBHBCB~D7,DREI~E>~0m~BVFNDJHK~g0U~BWZ~B:zBlBCCBCCCEBMBBBHBfBECIBHB2BEBFBBDHB~DwCZBZB5BZB5BZB5BZ
B5BZBIC<~Um5~F=,KHCKEB~Dd4S+EK~O<HBEBCBPB~CZCJ/iHBEK~JR;BDBEq,BP~CWEB1BCBBCBBKBEBBBBGBEBBBBBBDBCBBCB
BBBBBBBBBCBBCEBHBEBEBBBKBRFDBFBR~GeN~69K~Ly@AFge6~/ZH~C<C~hAO@ABAr~!H~G0~R+~_#"

/-- Whether a character belongs to words. -/
def isWordChar (letter : Char) : Bool :=
  if letter.toNat < 128 then letter.isAlphanum || letter == '_'
  else inRuns letter.toNat wordRuns

/-- Whether a character is a word character other than a decimal digit. -/
def isWordLetter (letter : Char) : Bool := isWordChar letter && !isDecimalDigit letter

end TypeSurvey.Text
