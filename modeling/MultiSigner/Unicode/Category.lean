import MultiSigner.Unicode.PackedTable
/-!
# Character categories

Numbers (categories Nd, Nl and No), marks (Mn, Mc and Me), white space and control characters.
-/

namespace MultiSigner.Unicode

/-- One from the first character of a run of numbers on, zero after it. -/
def numberTable : PackedTable :=
  ⟨6, 1, 13, [
    0x0000b210000b400000b910000ba00000bc10000bf0000660100066a00006f010006fa00007c010007ca00009661,
    0x00097000009e610009f000009f410009fa0000a661000a700000ae61000af00000b661000b700000b721000b780,
    0x000be61000bf30000c661000c700000c781000c7f0000ce61000cf00000d581000d5f0000d661000d790000de61,
    0x000df00000e501000e5a0000ed01000eda0000f201000f340001040100104a0001090100109a0001369100137d0,
    0x0016ee10016f100017e010017ea00017f010017fa0001810100181a0001946100195000019d010019db0001a801,
    0x001a8a0001a901001a9a0001b501001b5a0001bb01001bba0001c401001c4a0001c501001c5a000207010020710,
    0x002074100207a0002080100208a000215010021830002185100218a0002460100249c00024ea100250000027761,
    0x0027940002cfd1002cfe000300710030080003021100302a0003038100303b000319210031960003220100322a0,
    0x0032481003250000325110032600003280100328a00032b110032c0000a620100a62a000a6e6100a6f0000a8301,
    0x00a836000a8d0100a8da000a900100a90a000a9d0100a9da000a9f0100a9fa000aa50100aa5a000abf0100abfa0,
    0x00ff10100ff1a0010107101013400101401010179001018a101018c00102e110102fc0010320101032400103411,
    0x010342001034a101034b00103d110103d600104a010104aa001085810108600010879101088000108a710108b00,
    0x0108fb10109000010916101091c00109bc10109be00109c010109d000109d21010a000010a401010a490010a7d1,
    0x010a7f0010a9d1010aa00010aeb1010af00010b581010b600010b781010b800010ba91010bb00010cfa1010d000,
    0x010d301010d3a0010d401010d4a0010e601010e7f0010f1d1010f270010f511010f550010fc51010fcc00110521,
    0x01107000110f010110fa0011136101114000111d010111da00111e110111f500112f010112fa0011450101145a0,
    0x0114d010114da0011650101165a00116c010116ca00116d010116e40011730101173c00118e010118f300119501,
    0x01195a0011bf01011bfa0011c501011c6d0011d501011d5a0011da01011daa0011f501011f5a0011fc01011fd50,
    0x012400101246f0016a601016a6a0016ac01016aca0016b501016b5a0016b5b1016b620016d701016d7a0016e801,
    0x016e97001ccf0101ccfa001d2c0101d2d4001d2e0101d2f4001d360101d379001d7ce101d800001e140101e14a0,
    0x01e2f0101e2fa001e4f0101e4fa001e5f1101e5fb001e8c7101e8d0001e950101e95a001ec71101ecac001ecad1,
    0x01ecb0001ecb1101ecb5001ed01101ed2e001ed2f101ed3e001f100101f10d001fbf0101fbfa0ffffff0ffffff0]⟩

/-- One from the first character of a run of marks on, zero after it. -/
def markTable : PackedTable :=
  ⟨6, 1, 13, [
    0x00030010003700000483100048a000059110005be00005bf10005c000005c110005c300005c410005c600005c71,
    0x0005c80000610100061b000064b10006600000670100067100006d610006dd00006df10006e500006e710006e90,
    0x0006ea10006ee000071110007120000730100074b00007a610007b100007eb10007f400007fd10007fe00008161,
    0x00081a000081b1000824000082510008280000829100082e0000859100085c000089810008a000008ca10008e20,
    0x0008e31000904000093a100093d000093e100095000009511000958000096210009640000981100098400009bc1,
    0x0009bd00009be10009c500009c710009c900009cb10009ce00009d710009d800009e210009e400009fe10009ff0,
    0x000a011000a040000a3c1000a3d0000a3e1000a430000a471000a490000a4b1000a4e0000a511000a520000a701,
    0x000a720000a751000a760000a811000a840000abc1000abd0000abe1000ac60000ac71000aca0000acb1000ace0,
    0x000ae21000ae40000afa1000b000000b011000b040000b3c1000b3d0000b3e1000b450000b471000b490000b4b1,
    0x000b4e0000b551000b580000b621000b640000b821000b830000bbe1000bc30000bc61000bc90000bca1000bce0,
    0x000bd71000bd80000c001000c050000c3c1000c3d0000c3e1000c450000c461000c490000c4a1000c4e0000c551,
    0x000c570000c621000c640000c811000c840000cbc1000cbd0000cbe1000cc50000cc61000cc90000cca1000cce0,
    0x000cd51000cd70000ce21000ce40000cf31000cf40000d001000d040000d3b1000d3d0000d3e1000d450000d461,
    0x000d490000d4a1000d4e0000d571000d580000d621000d640000d811000d840000dca1000dcb0000dcf1000dd50,
    0x000dd61000dd70000dd81000de00000df21000df40000e311000e320000e341000e3b0000e471000e4f0000eb11,
    0x000eb20000eb41000ebd0000ec81000ecf0000f181000f1a0000f351000f360000f371000f380000f391000f3a0,
    0x000f3e1000f400000f711000f850000f861000f880000f8d1000f980000f991000fbd0000fc61000fc7000102b1,
    0x00103f0001056100105a000105e1001061000106210010650001067100106e000107110010750001082100108e0,
    0x00108f1001090000109a100109e000135d100136000017121001716000173210017350001752100175400017721,
    0x00177400017b410017d400017dd10017de000180b100180e000180f10018100001885100188700018a910018aa0,
    0x001920100192c0001930100193c0001a171001a1c0001a551001a5f0001a601001a7d0001a7f1001a800001ab01,
    0x001acf0001b001001b050001b341001b450001b6b1001b740001b801001b830001ba11001bae0001be61001bf40,
    0x001c241001c380001cd01001cd30001cd41001ce90001ced1001cee0001cf41001cf50001cf71001cfa0001dc01,
    0x001e0000020d010020f10002cef1002cf20002d7f1002d800002de01002e00000302a10030300003099100309b0,
    0x00a66f100a673000a674100a67e000a69e100a6a0000a6f0100a6f2000a802100a803000a806100a807000a80b1,
    0x00a80c000a823100a828000a82c100a82d000a880100a882000a8b4100a8c6000a8e0100a8f2000a8ff100a9000,
    0x00a926100a92e000a947100a954000a980100a984000a9b3100a9c1000a9e5100a9e6000aa29100aa37000aa431,
    0x00aa44000aa4c100aa4e000aa7b100aa7e000aab0100aab1000aab2100aab5000aab7100aab9000aabe100aac00,
    0x00aac1100aac2000aaeb100aaf0000aaf5100aaf7000abe3100abeb000abec100abee000fb1e100fb1f000fe001,
    0x00fe10000fe20100fe3000101fd10101fe00102e010102e10010376101037b0010a011010a040010a051010a070,
    0x010a0c1010a100010a381010a3b0010a3f1010a400010ae51010ae70010d241010d280010eab1010ead0010efd1,
    0x010f000010f461010f510010f821010f86001100010110030011038101104700110701011071001107310110750,
    0x01107f101108300110b010110bb00110c210110c300111001011103001112710111350011145101114700111731,
    0x0111740011180101118300111b310111c100111c910111cd00111ce10111d0001122c1011238001123e101123f0,
    0x011241101124200112df10112eb00113001011304001133b101133d001133e101134500113471011349001134b1,
    0x01134e00113571011358001136210113640011366101136d0011370101137500114351011447001145e101145f0,
    0x0114b010114c400115af10115b600115b810115c100115dc10115de0011630101164100116ab10116b8001171d1,
    0x01172c001182c101183b0011930101193600119371011939001193b101193f00119401011941001194210119440,
    0x0119d110119d800119da10119e100119e410119e50011a011011a0b0011a331011a3a0011a3b1011a3f0011a471,
    0x011a480011a511011a5c0011a8a1011a9a0011c2f1011c370011c381011c400011c921011ca80011ca91011cb70,
    0x011d311011d370011d3a1011d3b0011d3c1011d3e0011d3f1011d460011d471011d480011d8a1011d8f0011d901,
    0x011d920011d931011d980011ef31011ef70011f001011f020011f031011f040011f341011f3b0011f3e1011f430,
    0x0134401013441001344710134560016af01016af50016b301016b370016f4f1016f500016f511016f880016f8f1,
    0x016f930016fe41016fe50016ff01016ff2001bc9d101bc9f001cf00101cf2e001cf30101cf47001d165101d16a0,
    0x01d16d101d173001d17b101d183001d185101d18c001d1aa101d1ae001d242101d245001da00101da37001da3b1,
    0x01da6d001da75101da76001da84101da85001da9b101daa0001daa1101dab0001e000101e007001e008101e0190,
    0x01e01b101e022001e023101e025001e026101e02b001e08f101e090001e130101e137001e2ae101e2af001e2ec1,
    0x01e2f0001e4ec101e4f0001e8d0101e8d7001e944101e94b00e010010e01f00ffffff0ffffff0ffffff0ffffff0]⟩

/-- Whether a character is a number of any script.  In ASCII these are the ten digits. -/
def isNumber (c : Char) : Bool :=
  if c.toNat < 128 then c.isDigit else numberTable.value c.toNat = 1

/-- Whether a character is a mark that belongs to the one before it.  Marks start at U+0300. -/
def isMark (c : Char) : Bool :=
  if c.toNat < 0x300 then false else markTable.value c.toNat = 1

/-- Whether a character is a control character. -/
def isControl (c : Char) : Bool :=
  c.toNat < 0x20 || (0x7f ≤ c.toNat && c.toNat < 0xa0)

/-- Whether a character is white space. -/
def isSpace (c : Char) : Bool :=
  let n := c.toNat
  (9 ≤ n && n ≤ 13) || n = 0x20 || n = 0x85 || n = 0xa0 || n = 0x1680
    || (0x2000 ≤ n && n ≤ 0x200a) || n = 0x2028 || n = 0x2029 || n = 0x202f || n = 0x205f
    || n = 0x3000

end MultiSigner.Unicode
