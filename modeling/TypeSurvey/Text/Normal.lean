import TypeSurvey.Text.Table

/-!
# Compatibility normal form

Identifiers are compared after compatibility decomposition, canonical ordering of the combining
marks, and canonical composition. Syllables of Hangul are decomposed and composed by rule, all
other characters by table. The tables hold the characters that may occur in an identifier, but for
the presentation forms and mathematical letters of Arabic and the compatibility ideographs, which
are left as they are.
-/

namespace TypeSurvey.Text

/-- Two code points and the one that they compose to, from the steps between the entries: that to
the next composed code, and that to its first code point, doubled, and one less if it goes back. A
step of zero stands before that to the next second code point, for which both codes start anew. -/
def readCompositions (mark first whole : Nat) : List Nat → List (Nat × Nat × Nat)
  | 0 :: step :: rest => readCompositions (mark + step) 0 0 rest
  | step :: shift :: rest =>
    let whole := whole + step
    let first := if shift % 2 = 0 then first + shift / 2 else first - (shift + 1) / 2
    (first, mark, whole) :: readCompositions mark first whole rest
  | _ => []

/-- Two code points and the one that they compose to. -/
def compositions : List (Nat × Nat × Nat) := readCompositions 0 0 0 <| readNumbers <|
  String.toList
  "A~Iu~CU~B+IIEIGMHMHYIIEIGMHM~C[~C8Be2~EDBe~GD~VeNGh|NG~q.~SdBC;~B2BC.~FbBe#~BeBeJeBCP~B1BeR*BeJ
~EABCN2BCH~HxBeP@ACJeBCHOBCHOBCHOBCHOBCHOBCHOBCHOBCHOBCHOBCHOBCIQHOBCHOBCF@ABtBCICECECMCMCIc~BZOICEI
~BQI~BLI~BOIpOLCUAB~CV~B+IIEIGMHMDIEQIIEIGMHMDIJ~BVBe<,BeJ;BeQ]BeFbBe4:Be~BH~CYBe2~ERBeF~CQBeBbBeB1B
e~E.~P&CIBEBECMCMBIBg2:BIBEBEB!2XBMBIFS/~B+JOl<JO~q!~U,BeN~BABCX~B:BeB~DjBeN;BeN~C!BeF~CCBCB~FpBe9
~FgBCJ~G5Be7~BeBeJeBCP~B1BeR*BeJ~EABCN2BC1@ACC+BCHOBCHOBCHOBCHOBCHOBCHOBCHOBCHOBCHOBCHOBCIQHOBCHOBCA
B~CW~B+IIEIGMHMHYIIEIGMHMN~BNBeT]BeHbBeP;Be%,BeX]BeB;Be@ABA?bBe1@ACH)BCZ-BCR$BCAB~CX~B+O0ECO!O0EC=pB
ed%Be@ABA.bBe,~BgBeJeBCH~E9BeH~C4BeR*BeJ~EABCN2BCJ~HxBeAB~Cy~B+BeR]BeX]Be7=Be3=Be~BU~C8BeI~BZBeB~H)B
CB~IRBeJ~GEBCb~G#BeBfBeD~HYBCB~KtBe~Hz~V/BeL(Be~oz~XbBeX@ACF&BC9kBC~Dw@ABmdIdYuIdI~BCIdAC~DA~B+BeR]B
eJ;BeN;Be7=Be3=Be~Hl~VsLV6e#W~BN~BDBeOpBeF?Be~pT~MRBC~Bh@ABx&BC~Cr@ABo5IdYuIdI~BCIdAB~DI~B/BeL;BeJ;B
eP;p8Be~By~B1BeH9Be~wl~BDBeH;BeT;BeD;Be3?BeDbBeR;BeB;BeHbBeD~F6BCBKBCB@ACA|BCB@ACGvBe1_BeDbBeDbBeM
~GIAB~CY~B+HIEIHMGMIYHIEIHMGMDI~B9d~G-~T4BY5&BYJ0,~B/G3o~BIGg~B#~B?BeH~DsBCB~E,BeBbBeFbBeB=BeD~DwBCB
~E5BeDxBeD]BeD]Be~ov~XpBe%~C-Be*~CcBCJ~G9BeHbBeKHAB@ABFQ~B+BeF~CWBeJeBCH~E9BeH~C4BeF~DdBeF=BeF~C4BeJ
~EABCH~HbBeF~H0BCJ~HxBeAB~CZ~B+6e~B=XBe@ABAjEBEAB~Ds~BmBe5=Be~K#~VsBeAB~DK~B/BeBbBeLbBe8:BeJ;BeQ]BeH
bBeDbBeY=Bet~B1BeB.BeB=BeB=BeF~C8BeM~ERBeB]BeF~HcB~FIB~Ml-hBeAD~Fw~B+BeD]BeD]BeD=BeD_BeD_Be~HH~XiBCA
C~Fy~B+BeD]BeD]BeD=BeD_BeD_BeAC@ABGY~VyIdImIdIiIdIiIdIqIdIqQIId~B$/AB@ABGZ~VyIdImIdIiIdIiIdIqIdIqIdI
mId~B$/HdAH~Em~BmBeO=BeAI@ABD4~B-BeH;BeX]BeN_BeDbBeLbBeDbBeT]BeHbBeJbBeR;BeJbBeJ_BeN~B1BeX]BeR]BeB=B
eV~HIBCB~HbBeL~H0BCD~HxBeAB@ABE[~ByBeAB@ABD0~B+BeAB~GU~BuBeBbBeAB~C1~B/6e;]BeT]BeEbBeJ;BeQ]BeHbBeDbB
e~CZ~BHBe~xFfBeX]BeAB~DC~B+BeT]BeV]Beh%Be~B7pBeAF@ABD+~B<BeFbBe9:BeN;Be#=BeFbBeAB@ABDi~B|BeAC@ABD>
~B>BeR]Bel%BeAB@ABD6~B-BeH;Be#:BeFbBeN;BeV]BeP;Be#=BeB9AR@ABG4@ACM/BCHOBCX-BCHOBCHOBCHOBCX-BCIQHOBCH
OBCl@ABtBQMQEB8PJBMPDAD@ABHg@ACM/BCBCBCBCBCBCBCBCBCBCBCBCBCBCBCB8BCBCBCBCBCBCBCBCBCBCBCBCBCBCBCB~BMB
CBCBCBCBCBCBCBCBCBCBCBCBCBCBCDCB@ABtPBJD@ABuuF@ABv.G@ABuCB@ABtLBRD@ABvWF@ABvh$@ABuGB@ABsrBKD@ABv[F
@ABw(A~JI~SW~![AB~SX~![BgCE~Bi~DUC%R8AB~SZ~![A~I]~1X~[+IQDGA~B+~3N~|SAZ~3O~|SA~EP~7?~hMAY~7<~hMAB~7[
~hMA~BR~9I~kIBCAZ~8&~iq^~BSA~B(~!/~nGA~BW~$G~qEAT~#w~pqHOEIAB~$E~qEA~BS~%/~tCBCAZ~%<~tCA~B3~(U~w$DGA
F~(W~w$AQ~(Y~w$A~Gp~/G@ABKKA~6l~u$@ABooCECECECEEI(wCEDEBCCGA~d|@AB_g@AD3+CECECECECECECECECECECEDGCEC
EHODGDGDGDGY~BTK~CCO2CECECECECECECECECECECEDGCECEHODGDGDGDGY~BTD~BaBCBCBCEWAB@AB|R@AD44DGDGDGDGy~BwD
GDGDGDGA@AHfO@AJ#&@ASosCEPUA~BX@AJ%Q@ASs$BCA~GT@AJ,(@ATEoAZ@AJ,)@ATEoA~EB@AJ:g@ATN&AK@AJ:f@ATN&AD
@AJ:i@ATN&A~Ck@AJ>c@ATT8BCA~K#@AJdK@AT&O"

/-- Entries that give the parts of code points. A star stands before the number of codes in a row of
which the parts are in a row, an equality sign before the number of codes in a row that have the
same parts. -/
def readDecompositions (next : Nat) : List Text → List (List Nat)
  | [] => []
  | entry :: rest =>
    let (code, parts) := codedEntry next entry
    let row (step : Nat) (parts count : Text) : List (List Nat) :=
      (List.range (hexValue count)).map fun index =>
        (code + index) :: (words (· == ' ') parts).map fun part => hexValue part + step * index
    let entries := match splitWhere (· == '*') parts, splitWhere (· == '=') parts with
      | [first, count], _ => row 1 first count
      | _, [first, count] => row 0 first count
      | _, _ => row 0 parts ['1']
    entries ++ readDecompositions (code + entries.length) rest

/-- Each entry holds another code point and its full compatibility decomposition. -/
def decompositions : List (List Nat) := readDecompositions 0 <| tableEntries <|
  String.toList
  "AA:61;B5:3BC;BA:6F;132:49 4A;69 6A;13F:4C B7;6C B7;149:2BC 6E;17F:73;1C4:44 5A 30C;44 7A 30C
64 7A 30C;4C 4A;4C 6A;6C 6A;4E 4A;4E 6A;6E 6A;1F1:44 5A;44 7A;64 7A;2B0:68;266;6A;72;279;27B;281;77
79;2E0:263;6C;73;78;295;340:300;301;343:313;308 301;374:2B9;387:B7;3D0:3B2;3B8;3A5;3D5:3C6;3C0
3F0:3BA;3C1;3C2;3F4:398;3B5;3F9:3A3;587:565 582;675:627 674;648 674;6C7 674;64A 674;958:915 93C
916 93C;917 93C;91C 93C;921 93C;922 93C;92B 93C;92F 93C;9DC:9A1 9BC;9A2 9BC;9DF:9AF 9BC;A33:A32 A3C
A36:A38 A3C;A59:A16 A3C;A17 A3C;A1C A3C;A5E:A2B A3C;B5C:B21 B3C;B22 B3C;E33:E4D E32;EB3:ECD EB2
EDC:EAB E99;EAB EA1;F43:F42 FB7;F4D:F4C FB7;F52:F51 FB7;F57:F56 FB7;F5C:F5B FB7;F69:F40 FB5
F73:F71 F72;F75:F71 F74;FB2 F80;FB2 F71 F80;FB3 F80;FB3 F71 F80;F81:F71 F80;F93:F92 FB7;F9D:F9C FB7
FA2:FA1 FB7;FA7:FA6 FB7;FAC:FAB FB7;FB9:F90 FB5;10FC:10DC;1D2C:41;C6;42;1D30:44;45;18E;47*8;1D3C:4F
222;50;52;54;55;57;61;250;251;1D02;62;64;65;259;25B;25C;67;1D4F:6B;6D;14B;6F;254;1D16;1D17;70;74;75
1D1D;26F;76;1D25;3B2*3;3C6;3C7;69;72;75;76;3B2;3B3;3C1;3C6;3C7;1D78:43D;1D9B:252;63;255;F0;25C;66
25F;261;265;268*3;1D7B;29D;26D;1D85;29F;271;270;272*4;278;282;283;1AB;289;28A;1D1C;28B;28C;7A;290*3
3B8;1E9A:61 2BE;1F71:3B1 301;1F73:3B5 301;1F75:3B7 301;1F77:3B9 301;1F79:3BF 301;1F7B:3C5 301
1F7D:3C9 301;1FBB:391 301;1FBE:3B9;1FC9:395 301;1FCB:397 301;1FD3:3B9 308 301;1FDB:399 301
1FE3:3C5 308 301;1FEB:3A5 301;1FF9:39F 301;1FFB:3A9 301;2071:69;207F:6E;2090:61;65;6F;78;259;68;6B*4
70;73;74;2102:43;2107:190;210A:67;48=3;68;127;49=2;4C;6C;2115:4E;2119:50*3;52=2;2124:5A;2126:3A9
2128:5A;212A:4B;41 30A;42;43;212F:65;45;46;2133:4D;6F;5D0*4;69;213C:3C0;3B3;393;3A0;2145:44;64;65;69
6A;2160:49;49 49;49 49 49;49 56;56;56 49;56 49 49;56 49 49 49;49 58;58;58 49;58 49 49;4C;43;44;4D;69
69 69;69 69 69;69 76;76;76 69;76 69 69;76 69 69 69;69 78;78;78 69;78 69 69;6C;63;64;6D;2C7C:6A;56
2D6F:2D61;3038:5341;5344;5345;309F:3088 308A;30FF:30B3 30C8;3131:1100;1101;11AA;1102;11AC;11AD
1103*3;11B0*6;111A;1106*3;1121;1109*A;1161*15;1160;1114;1115;11C7;11C8;11CC;11CE;11D3;11D7;11D9;111C
11DD;11DF;111D;111E;1120;1122;1123;1127;1129;112B*5;1132;1136;1140;1147;114C;11F1;11F2;1157*3;1184
1185;1188;1191;1192;1194;119E;11A1;A69C:44A;44C;A770:A76F;A7F2:43;46;51;A7F8:126;153;AB5C:A727;AB37
26B;AB52;AB69:28D;FB00:66 66;66 69;66 6C;66 66 69;66 66 6C;73 74=2;FB13:574 576;574 565;574 56B
57E 576;574 56D;FB1D:5D9 5B4;FB1F:5F2 5B7;5E2;5D0;5D3;5D4;5DB*3;5E8;5EA;FB2A:5E9 5C1;5E9 5C2
5E9 5BC 5C1;5E9 5BC 5C2;5D0 5B7;5D0 5B8;5D0 5BC;5D1 5BC;5D2 5BC;5D3 5BC;5D4 5BC;5D5 5BC;5D6 5BC
FB38:5D8 5BC;5D9 5BC;5DA 5BC;5DB 5BC;5DC 5BC;FB3E:5DE 5BC;FB40:5E0 5BC;5E1 5BC;FB43:5E3 5BC;5E4 5BC
FB46:5E6 5BC;5E7 5BC;5E8 5BC;5E9 5BC;5EA 5BC;5D5 5B9;5D1 5BF;5DB 5BF;5E4 5BF;5D0 5DC;FE33:5F=2
FE4D:5F=3;FF10:30*A;FF21:41*1A;FF3F:5F;FF41:61*1A;FF66:30F2;30A1;30A3;30A5;30A7;30A9;30E3;30E5;30E7
30C3;30FC;30A2;30A4;30A6;30A8;30AA;30AB;30AD;30AF;30B1;30B3;30B5;30B7;30B9;30BB;30BD;30BF;30C1;30C4
30C6;30C8;30CA*6;30D2;30D5;30D8;30DB;30DE*5;30E4;30E6;30E8*6;30EF;30F3;3099;309A;1160;1100;1101;11AA
1102;11AC;11AD;1103*3;11B0*6;111A;1106*3;1121;1109*A;FFC2:1161*6;FFCA:1167*6;FFD2:116D*6;FFDA:1173*3
10781:2D0;2D1;E6;299;253;10787:2A3;AB66;2A5;2A4;256;257;1D91;258;25E;2A9;264;262;260;29B;127;29C;267
284;2AA;2AB;26C;1DF04;A78E;26E;1DF05;28E;1DF06;F8;276;277;71;27A;1DF08;27D;27E;280;2A8;2A6;AB67;2A7
288;2C71;107B2:28F;2A1;2A2;298;1C0*3;1DF0A;1DF1E;1D400:41*1A;61*1A;41*1A;61*7;1D456:69*12;41*1A
61*1A;41;1D49E:43;44;1D4A2:47;1D4A5:4A;4B;1D4A9:4E*4;1D4AE:53*8;61*4;1D4BB:66;1D4BD:68*7;1D4C5:70*B
41*1A;61*1A;41;42;1D507:44*4;1D50D:4A*8;1D516:53*7;1D51E:61*1A;41;42;1D53B:44*4;1D540:49*5;1D546:4F
1D54A:53*7;1D552:61*1A;41*1A;61*1A;41*1A;61*1A;41*1A;61*1A;41*1A;61*1A;41*1A;61*1A;41*1A;61*1A;131
237;1D6A8:391*11;398;3A3*7;1D6C2:3B1*19;1D6DC:3B5;3B8;3BA;3C6;3C1;3C0;391*11;398;3A3*7;1D6FC:3B1*19
1D716:3B5;3B8;3BA;3C6;3C1;3C0;391*11;398;3A3*7;1D736:3B1*19;1D750:3B5;3B8;3BA;3C6;3C1;3C0;391*11;398
3A3*7;1D770:3B1*19;1D78A:3B5;3B8;3BA;3C6;3C1;3C0;391*11;398;3A3*7;1D7AA:3B1*19;1D7C4:3B5;3B8;3BA;3C6
3C1;3C0;3DC;3DD;1D7CE:30*A;30*A;30*A;30*A;30*A;1FBF0:30*A"

/-- Ranges of codes with their combining classes. For each of them there are three numbers: the
codes between it and the range before, its codes, and what its class lacks to 255. -/
def readClasses (code : Nat) : List Nat → List (Nat × Nat × Nat)
  | between :: count :: lack :: rest =>
    let first := code + between
    (255 - lack, first, first + count - 1) :: readClasses (first + count) rest
  | _ => []

/-- The combining classes that are not zero, each with a range of codes. -/
def combiningClasses : List (Nat × Nat × Nat) := readClasses 0 <| readNumbers <| String.toList
  "~IuVZABXAE9ABXAB%AF9AC?AE9AC?AL9AF~CwAE9AIZABPABZAD9ADZAC9BDZAE9ABZABXAC9ABZABWACVABWACVABWANZ~DR
FZ~DHB9AEZAB9ADZAB7AB9AGZAG9ACZAB9ACZAB7AB1ABZAB~CnAB~CmAB~ClAB~CkAB~CjAB~CiAB~ChAB~CgAB~CfAC~CeAB
~CdAB~CcAB~CbBB~CaBB~C;AB~C|BBZAB9BB~CfmIZAB~C?AB~C>AB~C=/B~C^AB~C]AB~C[AB~C?AB~C>AB~C=AB~C<AB~C:ACZ
AC9AFZAB9ACZAB9QB~C/~BPHZCEZAB9ABZCCZBB9ACZAB99B~C.4BZAB9ACZAB9ACZAD9ABZAC9ABZAB9ADZAB9ABZAB9ABZAB9A
BZAB9ACZ~BoHZAB9ABZJB9YEZBJZBDZBFZ*D9aBZAD9AEZ)FZAF9AOZBB9ACZAB9ACZAB9ADZAD9AB~C^AB~C]AB~C[ADZAB9ACZ
AC9AFZaB~CqQB~CoDBZAB9ACZ~BRB~CqQB~Co/BZbB~CqQB~Co~BYB~CqQB~Co~BYB~CqQB~Co~B(B~Co~BYB~CqQB~CoHB~BzAB
~Bs~BPB~CqQB~Co~BXC~CoQB~Co~B$B~Co~BXC~BgAB~CoNE~Bc~BWC~B=AB~CoNE~B.qC91B9BB9BB%]B~B&AB~B%BB~B#FE~B%
CB~B%BCZAB~CoBCZcB9~B0B~CqBC~CowB9~I5DZ~LCC~Co4B~Co~BlB~CoKBZ~C5B1~B_B7ABZAB9~C.BZAB9lB~CoUIZCB9/FZA
G9ACZAB9BC9ACZAC9AFZAB9AEZ~BPB~CqPB~Co$BZAB9AHZ[C~Co|B~CqLC~CohB~Cq~BgDZBB~CwAF9ACZAE9ABZBH~CwEB9GBZ
DCZ~C0CZAB9AHZAB9ACZABVAB(AB9AB?A#ZABXAC1AB9AB#ABZABWAB9ABZAB9~I6CZAC~CwAEZAD~CwACZEBZDC~CwABZAB9ABZ
AC~CwAE9ABZ~9aDZ~B]B~Co~BK6Z~G$B#AB1ABXAB7AC5~BTC~Cp@AEGeBZEKZ6CZuCZ~DSB~Co#B~Co~BfB~Co1SZ_D9#B~Co
~BJB~CqMB~Co~ChBZBCZAB9CCZFCZBBZ>B~Co~CoB~Co@ACdcB~C_~IvHZAH9ACZ~L1B9~C[B9~BdFZ~T/B9BBZ&BZAB~CwAB9EB
~Co~BtBZAB9~G_EZ~E*CZ~BhC9ADZAB9ABZAE9:BZAB9ABZAB9~CUB~Co(B~CoOB~Co_B~CoAB~CqjDZ/C~CocB~CqqB~CoJB~Cq
~BUB~CoAB~Cq~CGB~CqAB~CouC~CqQB~CoYHZDFZ~C7B~CoDB~CqXBZ~BNB~CoAB~Cq~CtB~CoAB~Cq~B&B~Co~B6B~CoAB~Cq
~B3B~Co~DLB~CoAB~Cq~DAC~CoEB~Cq~BkB~CoxB~CoSB~CovB~Co~ErB~Co~DAB~CqBC~CovB~Co@AC|UF~Cw;HZ~OFC~Cr
@AC^UB~Cw~bmC%AD~CwDB3AF%II9CFZAC94EZ~BcDZ~&pHZBRZCHZBCZBFZ~DDHZ~E5BZbEZ~R)H9~BXGZAB~Cq"

/-- The combining class of a code point; zero for those that start a sequence. -/
def combiningClass (code : Nat) : Nat :=
  combiningClasses.findSome? (fun (order, first, last) =>
    if first ≤ code && code ≤ last then some order else none) |>.getD 0

/-- The full decomposition of a code point by the tables, with no more than a number of marks. -/
def decomposeFrom : Nat → Nat → List Nat
  | 0, code => [code]
  | marks + 1, code =>
    match compositions.find? fun (_, _, whole) => whole == code with
    | some (first, mark, _) => decomposeFrom marks first ++ [mark]
    | none =>
      match decompositions.find? (·.head? == some code) with
      | some entry => entry.tail
      | none => [code]

/-- The full compatibility decomposition of a code point. -/
def decompose (code : Nat) : List Nat :=
  if 0xac00 ≤ code && code < 0xd7a4 then
    let index := code - 0xac00
    let stem := [0x1100 + index / 588, 0x1161 + index % 588 / 28]
    if index % 28 = 0 then stem else stem ++ [0x11a7 + index % 28]
  else decomposeFrom 4 code

/-- The character that two code points compose to. -/
def compose? (first second : Nat) : Option Nat :=
  if 0x1100 ≤ first && first < 0x1113 && 0x1161 ≤ second && second < 0x1176 then
    some (0xac00 + ((first - 0x1100) * 21 + (second - 0x1161)) * 28)
  else if 0xac00 ≤ first && first < 0xd7a4 && (first - 0xac00) % 28 = 0 &&
      0x11a8 ≤ second && second < 0x11c3 then
    some (first + (second - 0x11a7))
  else
    compositions.findSome? fun (left, right, whole) =>
      if left = first ∧ right = second then some whole else none

/-- Puts a mark before the marks of a higher class at the end of a sequence that is held
backwards. -/
def placeMark (mark : Nat × Nat) : List (Nat × Nat) → List (Nat × Nat)
  | [] => [mark]
  | last :: before =>
    if mark.2 ≠ 0 ∧ mark.2 < last.2 then last :: placeMark mark before else mark :: last :: before

/-- Marks in canonical order: each run of combining marks is sorted by class, equal classes keep
their order. -/
def orderMarks (codes : List Nat) : List (Nat × Nat) :=
  (codes.foldl (fun placed code => placeMark (code, combiningClass code) placed) []).reverse

/-- Canonical composition. `starter` is the last character that starts a sequence, `between` the
marks kept since, backwards, and `done` all before, backwards. -/
def composeFrom : Option Nat → List (Nat × Nat) → List Nat → List (Nat × Nat) → List Nat
  | starter, between, done, [] =>
    (between.map Prod.fst ++ starter.toList ++ done).reverse
  | none, between, done, (code, order) :: rest =>
    if order = 0 then composeFrom (some code) [] (between.map Prod.fst ++ done) rest
    else composeFrom none ((code, order) :: between) done rest
  | some starter, between, done, (code, order) :: rest =>
    let blocked := match between with
      | [] => false
      | (_, last) :: _ => last = 0 || last ≥ order
    match (if blocked then none else compose? starter code) with
    | some whole => composeFrom (some whole) between done rest
    | none =>
      if order = 0 then
        composeFrom (some code) [] (between.map Prod.fst ++ starter :: done) rest
      else composeFrom (some starter) ((code, order) :: between) done rest

/-- The compatibility normal form of an identifier. -/
def normalize (text : Text) : Text :=
  if text.all (·.toNat < 128) then text
  else
    let codes := text.flatMap fun letter => decompose letter.toNat
    (composeFrom none [] [] (orderMarks codes)).map Char.ofNat

end TypeSurvey.Text
