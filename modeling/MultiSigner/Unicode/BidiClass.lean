import MultiSigner.Unicode.PackedTable
/-!
# Directional classes

The bidirectional class of a character, as far as the rules for domain names tell them apart.
-/

namespace MultiSigner.Unicode

/-- The direction of a character. -/
inductive BidiClass
  | leftToRight
  | rightToLeft
  | arabicLetter
  | arabicNumber
  | europeanNumber
  | europeanSeparator
  | commonSeparator
  | europeanTerminator
  | otherNeutral
  | boundaryNeutral
  | nonspacingMark
  /-- White space, separators of paragraphs and segments, and explicit directions. -/
  | other
  deriving Repr, DecidableEq

namespace BidiClass

/-- The classes, in the order in which `bidiTable` numbers them. -/
def all : List BidiClass :=
  [leftToRight, rightToLeft, arabicLetter, arabicNumber, europeanNumber, europeanSeparator,
    commonSeparator, europeanTerminator, otherNeutral, boundaryNeutral, nonspacingMark, other]

/-- Whether a label with such a character is written from the right. -/
def isRightToLeft : BidiClass → Bool
  | rightToLeft => true
  | arabicLetter => true
  | arabicNumber => true
  | _ => false

end BidiClass

/-- The number of the class that holds from a character on. -/
def bidiTable : PackedTable :=
  ⟨6, 1, 13, [
    0x0000009000009b00000e900001cb00002180000237000026800002b500002c600002d500002e6000030400003a6,
    0x00003b8000041000005b8000061000007b800007f9000085b00008690000a060000a180000a270000a680000aa0,
    0x0000ab80000ad90000ae80000b070000b240000b480000b500000b680000b940000ba00000bb80000c000000d78,
    0x0000d800000f780000f800002b980002bb00002c280002d000002d280002e000002e580002ee00002ef8000300a,
    0x00037000003748000376000037e800037f000038480003860000387800038800003f680003f70000483a00048a0,
    0x00058a800058b000058d800058f70005900000591a0005be10005bfa0005c010005c1a0005c310005c4a0005c61,
    0x0005c7a0005c800005d010005eb00005ef10005f50000600300060680006082000609700060b200060c600060d2,
    0x00060e8000610a00061b200061d000061e200064ba000660300066a700066b300066d2000670a00067120006d6a,
    0x0006dd30006de80006dfa0006e520006e7a0006e980006eaa0006ee20006f040006fa200070e000070f2000711a,
    0x0007122000730a00074b000074d20007a6a0007b120007b200007c010007eba0007f410007f680007fa10007fb0,
    0x0007fda0007fe1000816a00081a100081ba0008241000825a0008281000829a00082e0000830100083f00008401,
    0x000859a00085c000085e100085f0000860200086b00008a020008b500008b620008c800008d3a0008e230008e3a,
    0x000903000093aa00093b000093ca00093d0000941a000949000094da00094e0000951a0009580000962a0009640,
    0x000981a00098200009bca0009bd00009c1a0009c500009cda0009ce00009e2a0009e400009f270009f400009fb7,
    0x0009fc00009fea0009ff0000a01a000a030000a3ca000a3d0000a41a000a430000a47a000a490000a4ba000a4e0,
    0x000a51a000a520000a70a000a720000a75a000a760000a81a000a830000abca000abd0000ac1a000ac60000ac7a,
    0x000ac90000acda000ace0000ae2a000ae40000af17000af20000afaa000b000000b01a000b020000b3ca000b3d0,
    0x000b3fa000b400000b41a000b450000b4da000b4e0000b55a000b570000b62a000b640000b82a000b830000bc0a,
    0x000bc10000bcda000bce0000bf38000bf97000bfa8000bfb0000c00a000c010000c04a000c050000c3ea000c410,
    0x000c46a000c490000c4aa000c4e0000c55a000c570000c62a000c640000c788000c7f0000c81a000c820000cbca,
    0x000cbd0000ccca000cce0000ce2a000ce40000d00a000d020000d3ba000d3d0000d41a000d450000d4da000d4e0,
    0x000d62a000d640000d81a000d820000dcaa000dcb0000dd2a000dd50000dd6a000dd70000e31a000e320000e34a,
    0x000e3b0000e3f7000e400000e47a000e4f0000eb1a000eb20000eb4a000ebd0000ec8a000ece0000f18a000f1a0,
    0x000f35a000f360000f37a000f380000f39a000f3a8000f3e0000f71a000f7f0000f80a000f850000f86a000f880,
    0x000f8da000f980000f99a000fbd0000fc6a000fc7000102da0010310001032a0010380001039a00103b000103da,
    0x00103f0001058a00105a000105ea0010610001071a0010750001082a0010830001085a001087000108da00108e0,
    0x00109da00109e000135da0013600001390800139a000140080014010001680b001681000169b800169d0001712a,
    0x0017150001732a0017340001752a0017540001772a00177400017b4a0017b600017b7a0017be00017c6a0017c70,
    0x0017c9a0017d400017db70017dc00017dda0017de00017f080017fa0001800800180ba00180e900180f0001885a,
    0x00188700018a9a0018aa0001920a0019230001927a0019290001932a0019330001939a00193c000194080019410,
    0x001944800194600019de8001a000001a17a001a190001a1ba001a1c0001a56a001a570001a58a001a5f0001a60a,
    0x001a610001a62a001a630001a65a001a6d0001a73a001a7d0001a7fa001a800001ab0a001ac10001b00a001b040,
    0x001b34a001b350001b36a001b3b0001b3ca001b3d0001b42a001b430001b6ba001b740001b80a001b820001ba2a,
    0x001ba60001ba8a001baa0001baba001bae0001be6a001be70001be8a001bea0001beda001bee0001befa001bf20,
    0x001c2ca001c340001c36a001c380001cd0a001cd30001cd4a001ce10001ce2a001ce90001ceda001cee0001cf4a,
    0x001cf50001cf8a001cfa0001dc0a001dfa0001dfba001e000001fbd8001fbe0001fbf8001fc20001fcd8001fd00,
    0x001fdd8001fe00001fed8001ff00001ffd8001fff0002000b00200b900200e000200f10020108002028b00202f6,
    0x002030700203580020446002045800205fb00206090020650002066b00206a900207040020710002074400207a5,
    0x00207c800207f0002080400208a500208c800208f00020a070020c000020d0a0020f10002100800210200021038,
    0x0021070002108800210a0002114800211500021168002119000211e800212400021258002126000212780021280,
    0x002129800212a000212e700212f000213a800213c00021408002145000214a800214e0002150800216000021898,
    0x00218c00021908002212500221370022148002336000237b8002395000239680024270002440800244b00024608,
    0x002488400249c00024ea80026ac00026ad800280000029008002b740002b768002b960002b978002c000002ce58,
    0x002ceb0002cefa002cf20002cf98002d000002d7fa002d800002de0a002e008002e530002e808002e9a0002e9b8,
    0x002ef40002f008002fd60002ff08002ffc0003000b003001800300500030088003021000302aa00302e00030308,
    0x00303100030368003038000303d80030400003099a00309b800309d00030a080030a100030fb80030fc00031c08,
    0x0031e4000321d800321f00032508003260000327c800327f00032b180032c000032cc80032d00003377800337b0,
    0x0033de80033e000033ff80034000004dc08004e00000a490800a4c7000a60d800a610000a66fa00a673800a674a,
    0x00a67e800a680000a69ea00a6a0000a6f0a00a6f2000a700800a722000a788800a789000a802a00a803000a806a,
    0x00a807000a80ba00a80c000a825a00a827000a828800a82ca00a82d000a838700a83a000a874800a878000a8c4a,
    0x00a8c6000a8e0a00a8f2000a8ffa00a900000a926a00a92e000a947a00a952000a980a00a983000a9b3a00a9b40,
    0x00a9b6a00a9ba000a9bca00a9be000a9e5a00a9e6000aa29a00aa2f000aa31a00aa33000aa35a00aa37000aa43a,
    0x00aa44000aa4ca00aa4d000aa7ca00aa7d000aab0a00aab1000aab2a00aab5000aab7a00aab9000aabea00aac00,
    0x00aac1a00aac2000aaeca00aaee000aaf6a00aaf7000ab6a800ab6c000abe5a00abe6000abe8a00abe9000abeda,
    0x00abee000fb1d100fb1ea00fb1f100fb29500fb2a100fb37000fb38100fb3d000fb3e100fb3f000fb40100fb420,
    0x00fb43100fb45000fb46100fb50200fbc2000fbd3200fd3e800fd40000fd50200fd90000fd92200fdc8000fdf02,
    0x00fdfd800fdfe000fe00a00fe10800fe1a000fe20a00fe30800fe50600fe51800fe52600fe53000fe54800fe556,
    0x00fe56800fe5f700fe60800fe62500fe64800fe67000fe68800fe69700fe6b800fe6c000fe70200fe75000fe762,
    0x00fefd000feff900ff00000ff01800ff03700ff06800ff0b500ff0c600ff0d500ff0e600ff10400ff1a600ff1b8,
    0x00ff21000ff3b800ff41000ff5b800ff66000ffe0700ffe2800ffe5700ffe7000ffe8800ffef000fff9800fffe0,
    0x01010180101020010140801018d0010190801019d00101a080101a100101fda0101fe00102e0a0102e140102fc0,
    0x010376a01037b0010800101080600108081010809001080a101083600108371010839001083c101083d001083f1,
    0x0108560010857101089f00108a710108b000108e010108f300108f410108f600108fb101091c001091f80109201,
    0x01093a001093f1010940001098010109b800109bc10109d000109d21010a01a010a040010a05a010a070010a0ca,
    0x010a101010a140010a151010a180010a191010a360010a38a010a3b0010a3fa010a401010a490010a501010a590,
    0x010a601010aa00010ac01010ae5a010ae70010aeb1010af70010b001010b360010b398010b401010b560010b581,
    0x010b730010b781010b920010b991010b9d0010ba91010bb00010c001010c490010c801010cb30010cc01010cf30,
    0x010cfa1010d002010d24a010d280010d303010d3a0010e603010e7f0010e801010eaa0010eaba010ead1010eae0,
    0x010eb01010eb20010f001010f280010f302010f46a010f512010f5a0010fb01010fcc0010fe01010ff70011001a,
    0x0110020011038a01104700110528011066001107fa01108200110b3a0110b700110b9a0110bb0011100a0111030,
    0x011127a01112c001112da0111350011173a0111740011180a01118200111b6a0111bf00111c9a0111cd00111cfa,
    0x0111d0001122fa0112320011234a0112350011236a011238001123ea01123f00112dfa0112e000112e3a0112eb0,
    0x011300a011302001133ba01133d0011340a0113410011366a01136d0011370a0113750011438a0114400011442a,
    0x0114450011446a011447001145ea01145f00114b3a0114b900114baa0114bb00114bfa0114c100114c2a0114c40,
    0x0115b2a0115b600115bca0115be00115bfa0115c100115dca0115de0011633a01163b001163da01163e001163fa,
    0x0116410011660801166d00116aba0116ac00116ada0116ae00116b0a0116b600116b7a0116b8001171da0117200,
    0x011722a0117260011727a01172c001182fa0118380011839a01183b001193ba01193d001193ea01193f0011943a,
    0x01194400119d4a0119d800119daa0119dc00119e0a0119e10011a01a011a070011a09a011a0b0011a33a011a390,
    0x011a3ba011a3f0011a47a011a480011a51a011a570011a59a011a5c0011a8aa011a970011a98a011a9a0011c30a,
    0x011c370011c38a011c3e0011c92a011ca80011caaa011cb10011cb2a011cb40011cb5a011cb70011d31a011d370,
    0x011d3aa011d3b0011d3ca011d3e0011d3fa011d460011d47a011d480011d90a011d920011d95a011d960011d97a,
    0x011d980011ef3a011ef50011fd58011fdd7011fe18011ff20016af0a016af50016b30a016b370016f4fa016f500,
    0x016f8fa016f930016fe28016fe30016fe4a016fe5001bc9da01bc9f001bca0901bca4001d167a01d16a001d1739,
    0x01d17ba01d183001d185a01d18c001d1aaa01d1ae001d200801d242a01d245801d246001d300801d357001d6db8,
    0x01d6dc001d715801d716001d74f801d750001d789801d78a001d7c3801d7c4001d7ce401d800001da00a01da370,
    0x01da3ba01da6d001da75a01da76001da84a01da85001da9ba01daa0001daa1a01dab0001e000a01e007001e008a,
    0x01e019001e01ba01e022001e023a01e025001e026a01e02b001e130a01e137001e2eca01e2f0001e2ff701e3000,
    0x01e800101e8c5001e8c7101e8d0a01e8d7001e900101e944a01e94b101e94c001e950101e95a001e95e101e9600,
    0x01ec71201ecb5001ed01201ed3e001ee00201ee04001ee05201ee20001ee21201ee23001ee24201ee25001ee272,
    0x01ee28001ee29201ee33001ee34201ee38001ee39201ee3a001ee3b201ee3c001ee42201ee43001ee47201ee480,
    0x01ee49201ee4a001ee4b201ee4c001ee4d201ee50001ee51201ee53001ee54201ee55001ee57201ee58001ee592,
    0x01ee5a001ee5b201ee5c001ee5d201ee5e001ee5f201ee60001ee61201ee63001ee64201ee65001ee67201ee6b0,
    0x01ee6c201ee73001ee74201ee78001ee79201ee7d001ee7e201ee7f001ee80201ee8a001ee8b201ee9c001eea12,
    0x01eea4001eea5201eeaa001eeab201eebc001eef0801eef2001f000801f02c001f030801f094001f0a0801f0af0,
    0x01f0b1801f0c0001f0c1801f0d0001f0d1801f0f6001f100401f10b801f110001f12f801f130001f16a801f1700,
    0x01f1ad801f1ae001f260801f266001f300801f6d8001f6e0801f6ed001f6f0801f6fd001f700801f774001f7808,
    0x01f7d9001f7e0801f7ec001f800801f80c001f810801f848001f850801f85a001f860801f888001f890801f8ae0,
    0x01f8b0801f8b2001f900801f979001f97a801f9cc001f9cd801fa54001fa60801fa6e001fa70801fa75001fa788,
    0x01fa7b001fa80801fa87001fa90801faa9001fab0801fab7001fac0801fac3001fad0801fad7001fb00801fb930,
    0x01fb94801fbcb001fbf0401fbfa00e000190e000200e002090e008000e0100a0e01f00ffffff0ffffff0ffffff0]⟩

/-- The direction of a character. -/
def bidiClass (c : Char) : BidiClass :=
  BidiClass.all.getD (bidiTable.value c.toNat) .other

/-- Whether a character is written from the right.  The first such one is U+0590 or later. -/
def isRightToLeft (c : Char) : Bool :=
  if c.toNat < 0x590 then false else (bidiClass c).isRightToLeft

end MultiSigner.Unicode
