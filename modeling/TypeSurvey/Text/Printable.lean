import TypeSurvey.Text.Table

/-!
# Printable characters

A character is printable unless Unicode classes it as a control, format, surrogate, private or
unassigned code point or as a separator; the space is printable.
-/

namespace TypeSurvey.Text

/-- Whether a code point is in a set, given by the lengths of the runs of code points outside and
inside it, in turn. -/
def inRuns : Nat → List Nat → Bool
  | code, outside :: inside :: runs =>
    if code < outside then false
    else if code < outside + inside then true
    else inRuns (code - (outside + inside)) runs
  | _, _ => false

/-- The runs of code points beyond ASCII that are not printable. -/
def unprintableRuns : List Nat := readNumbers <| String.toList
  "~B)7MB~I0CGEHBBBUB~E?B$C<CDB]I1EGRWB~CUB/C;C~BPO;C:CPB2CBBLF5JoB~BpBICCCWBHBBDECJCCCEIBECBFCZCDBG
ECCWBHBCBCBCCBBFECCDDBHEBBHRKDBJBDBWBHBCBFCKBDBDCBPECMHHBDBICCCWBHBCBFCJCCCDHDECBFCSKCBGDDBEDCBBBCDC
DDDMEFDDBECBGBOVFNBDBXBQCJBDBEHCBDCBCECKHWBDBXBKBFCJBDBEHCGCBECKBCNNBDB=BDBGEQC0BDBSDYBJBBCHDBEGBBBI
GKCDM|E3#CBBBFBYBBBXCFBBBGCKCE6mB!E%B!BPBN#~C0BBFBC~E7BECHBBBEC(BEC7BECHBBBECPB_BEChC6D0G~BACGC~H$B2
D~BDHWJYJUMNBDBCM~BICKGKGOBLG~BDH*FkK5BMEMEBD)CFL+E0GLDcCfB3CLGKGOC5:rD.B~B4IaDPDaH*CLI*F~GSCGC$CGCI
BBBBBBB5C?BPBOCGBTCDBJRYI.RCC1BND7P7P~B[E~HbZLV~VGC6B~EFF,BBFBC^HCOYJHBHBHBHBHBHBHBHB~B&80B~BDM~C)0M
FdB~BAC~BRF*B~BIByM.B@ADw?D]J~EEU~CMI~C5FCBBBFY;DKG^IkIMG~B4L4DsBLE7B]JOCKC~BRY2KGCGCGJHBHBaE~B&CKG
@AB*sMXE:E~Xk~o!~EWC~BU$HMFF0BFBBBCBCB~B%Q~FPC[HB6)G=BTBEEFB~B:E~CSDGCGCGCDDHBHNCCMB0BTBCBPCO8~B#FDE
,D~BCBNDB.-~B+3D:P2E!J4F*F4B#EO)~BmCKG!E!E&I>LMBPBHBCBLBPBHBCh~D?JWKIYGB)BJjGCBB+BCDBCXBmIJ/TBCF7D1F
Be^EUC<BCFIBDB3CDEKHJHe6%EMJ[D3C1F0HEMHun]=N=H-IK~D!5B)BDCCs&I)W0$2UXJsE!JcBFNZHKG?BSI%J~BKBULSB+fHB
BBEBPBLG;FKGEBICCCWBHBCBFBKCCCDCBGBFHCHDF~B?~BGBF4mIK~Bu[C$8jLKGNT|GK[1CPEX~CNa~BOxMICBCIBCB4BCCMJKk
IC-CL1mIxNn~DFJB,BOK3D6CWBOnHBCB+DBBCBJIKGGBCB#BCBGHK~D>Z~CLBP<N~Kd~BQ~BZBFL~CY~4^~BNN~M%~.H~Gh@ABO7
~G?H5BKEvBKG4CGKkKKBHBVFT~IA~BF~BPpE_HReFLCO~l4I~O8)J@ABRrEBHBCB~D7,DREI~E>~0m~BVFNDJHKCE~[a-CXJ~B4a
~CoK%CoI~B0Vk~BiUM~BBJZ~B:zBlBCCBCCCEBMBBBHBfBECIBHB2BEBFBBDHB~DwC~D8C~IOPFBP~Mm5~C?HBRCHBCBF~C(,DOC
KEC~Dc5R|FB~O+HBEBCBPB~CZCQ(qEKEC~JLiqb~CWEB1BCBBCBBKBEBBBBGBEBBBBBBDBCBBCBBBBBBBBBBCBBCEBHBEBEBBBKB
RFDBFBR>C~DM+E~BOMPCPBPB#K~CC^3N+EJHCOG~Bi~L$FQDND~B4M~BDHMEBPME^IKG&I4CCs~DwMOCFDFDHJ3DLFGKKGIIHJ
~BbB]#K~Ly@AFge6~/ZH~C<C~hAO@ABAr~!H~G0~R+~_#@BKmF~Ci@A0+6"

/-- Whether a character can stand for itself in quoted text. -/
def isPrintable (letter : Char) : Bool :=
  let code := letter.toNat
  if code < 128 then 32 ≤ code && code < 127 else !inRuns code unprintableRuns

end TypeSurvey.Text
