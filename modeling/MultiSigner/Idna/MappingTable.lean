import MultiSigner.Unicode.PackedTable
/-!
# The mapping table of internationalized names

For every character whether it may stand in a name, and what it is replaced by.  A value has one
digit for the kind of the entry and six for what belongs to it:

* 0 valid, 1 ignored, 2 disallowed;
* 3 mapped to the character with the given number, the next ones to its successors;
* 4 mapped to a part of `mappingSequences`, given by 32 times its start plus its length;
* 5 valid, 6 mapped (as 3) and 7 mapped (as 4), but disallowed where names keep to the characters
  of host names;
* 8 mapped to its successor, and valid, by turns;
* 9 a deviation, see `Idna.deviation?`.
-/

namespace MultiSigner.Idna

open Unicode (PackedTable PackedSequence)

/-- What holds from a character on. -/
def mappingTable : PackedTable :=
  ⟨6, 7, 7, [
    0x000000500000000002d000000000002f5000000000030000000000003a5000000000041300006100005b5000000,
    0x000061000000000007b500000000008020000000000a060000200000a100000000000a870000020000a90000000,
    0x0000aa30000610000ab00000000000ad10000000000ae00000000000af70000420000b000000000000b23000032,
    0x0000b470000820000b530003bc0000b600000000000b870000c20000b930000310000ba300006f0000bb0000000,
    0x0000bc40001030000bd40001630000be40001c30000bf00000000000c030000e00000d700000000000d830000f8,
    0x0000df90002220000e0000000000010080000000001304000262000131000000000013240002a20001348000000,
    0x0001380000000000139800000000013f40002e20001418000000000149400032200014a800000000017830000ff,
    0x000179800000000017f300007300018000000000001813000253000182800000000018630002540001873000188,
    0x0001880000000000189300025600018b300018c00018c000000000018e30001dd00018f3000259000190300025b,
    0x0001913000192000192000000000019330002600001943000263000195000000000019630002690001973000268,
    0x0001983000199000199000000000019c300026f00019d300027200019e000000000019f30002750001a08000000,
    0x0001a630002800001a730001a80001a800000000001a930002830001aa00000000001ac30001ad0001ad0000000,
    0x0001ae30002880001af30001b00001b000000000001b1300028a0001b380000000001b730002920001b830001b9,
    0x0001b900000000001bc30001bd0001bd00000000001c440003620001c740003a20001ca40003e20001cd8000000,
    0x0001dd00000000001de80000000001f000000000001f140004220001f430001f50001f500000000001f63000195,
    0x0001f730001bf0001f88000000000220300019e00022100000000002228000000000234000000000023a3002c65,
    0x00023b300023c00023c000000000023d300019a00023e3002c6600023f000000000024130002420002420000000,
    0x00024330001800002443000289000245300028c000246800000000025000000000002b030000680002b13000266,
    0x0002b2300006a0002b330000720002b430002790002b5300027b0002b630002810002b730000770002b83000079,
    0x0002b900000000002d870004620002d970004a20002da70004e20002db70005220002dc70005620002dd70005a2,
    0x0002de00000000002e030002630002e1300006c0002e230000730002e330000780002e430002950002e50000000,
    0x00034030003000003420000000000343300031300034440005e200034530003b9000346000000000034f1000000,
    0x0003500000000000370800000000037430002b90003750000000000376300037700037700000000003782000000,
    0x00037a700062200037b000000000037e600003b00037f30003f3000380200000000038470000820003857000663,
    0x00038630003ac00038730000b700038830003ad00038b200000000038c30003cc00038d200000000038e30003cd,
    0x000390000000000039130003b10003a220000000003a330003c30003ac00000000003c290006c10003c30000000,
    0x0003cf30003d70003d030003b20003d130003b80003d230003c50003d330003cd0003d430003cb0003d530003c6,
    0x0003d630003c00003d700000000003d880000000003f030003ba0003f130003c10003f230003c30003f30000000,
    0x0003f430003b80003f530003b50003f600000000003f730003f80003f800000000003f930003c30003fa30003fb,
    0x0003fb00000000003fd300037b00040030004500004103000430000430000000000046080000000004820000000,
    0x00048a80000000004c020000000004c180000000004cf00000000004d0800000000053020000000005313000561,
    0x0005572000000000559000000000058740006e2000588000000000058b200000000058d00000000005902000000,
    0x00059100000000005c820000000005d000000000005eb20000000005ef00000000005f520000000006060000000,
    0x00061c200000000061e00000000006754000722000676400076200067740007a200067840007e20006790000000,
    0x0006dd20000000006de000000000070e2000000000710000000000074b200000000074d00000000007b22000000,
    0x0007c000000000007fb20000000007fd000000000082e2000000000830000000000083f20000000008400000000,
    0x00085c200000000085e000000000085f2000000000860000000000086b20000000008a000000000008b52000000,
    0x0008b600000000008c820000000008d300000000008e220000000008e3000000000095840008220009594000862,
    0x00095a40008a200095b40008e200095c400092200095d400096200095e40009a200095f40009e20009600000000,
    0x0009842000000000985000000000098d200000000098f0000000000991200000000099300000000009a92000000,
    0x0009aa00000000009b120000000009b200000000009b320000000009b600000000009ba20000000009bc0000000,
    0x0009c520000000009c700000000009c920000000009cb00000000009cf20000000009d700000000009d82000000,
    0x0009dc4000a220009dd4000a620009de20000000009df4000aa20009e000000000009e420000000009e60000000,
    0x0009ff2000000000a010000000000a042000000000a050000000000a0b2000000000a0f0000000000a112000000,
    0x000a130000000000a292000000000a2a0000000000a312000000000a320000000000a334000ae2000a342000000,
    0x000a350000000000a364000b22000a372000000000a380000000000a3a2000000000a3c0000000000a3d2000000,
    0x000a3e0000000000a432000000000a470000000000a492000000000a4b0000000000a4e2000000000a510000000,
    0x000a522000000000a594000b62000a5a4000ba2000a5b4000be2000a5c0000000000a5d2000000000a5e4000c22,
    0x000a5f2000000000a660000000000a772000000000a810000000000a842000000000a850000000000a8e2000000,
    0x000a8f0000000000a922000000000a930000000000aa92000000000aaa0000000000ab12000000000ab20000000,
    0x000ab42000000000ab50000000000aba2000000000abc0000000000ac62000000000ac70000000000aca2000000,
    0x000acb0000000000ace2000000000ad00000000000ad12000000000ae00000000000ae42000000000ae60000000,
    0x000af22000000000af90000000000b002000000000b010000000000b042000000000b050000000000b0d2000000,
    0x000b0f0000000000b112000000000b130000000000b292000000000b2a0000000000b312000000000b320000000,
    0x000b342000000000b350000000000b3a2000000000b3c0000000000b452000000000b470000000000b492000000,
    0x000b4b0000000000b4e2000000000b550000000000b582000000000b5c4000c62000b5d4000ca2000b5e2000000,
    0x000b5f0000000000b642000000000b660000000000b782000000000b820000000000b842000000000b850000000,
    0x000b8b2000000000b8e0000000000b912000000000b920000000000b962000000000b990000000000b9b2000000,
    0x000b9c0000000000b9d2000000000b9e0000000000ba02000000000ba30000000000ba52000000000ba80000000,
    0x000bab2000000000bae0000000000bba2000000000bbe0000000000bc32000000000bc60000000000bc92000000,
    0x000bca0000000000bce2000000000bd00000000000bd12000000000bd70000000000bd82000000000be60000000,
    0x000bfb2000000000c000000000000c0d2000000000c0e0000000000c112000000000c120000000000c292000000,
    0x000c2a0000000000c3a2000000000c3d0000000000c452000000000c460000000000c492000000000c4a0000000,
    0x000c4e2000000000c550000000000c572000000000c580000000000c5b2000000000c600000000000c642000000,
    0x000c660000000000c702000000000c770000000000c8d2000000000c8e0000000000c912000000000c920000000,
    0x000ca92000000000caa0000000000cb42000000000cb50000000000cba2000000000cbc0000000000cc52000000,
    0x000cc60000000000cc92000000000cca0000000000cce2000000000cd50000000000cd72000000000cde0000000,
    0x000cdf2000000000ce00000000000ce42000000000ce60000000000cf02000000000cf10000000000cf32000000,
    0x000d000000000000d0d2000000000d0e0000000000d112000000000d120000000000d452000000000d460000000,
    0x000d492000000000d4a0000000000d502000000000d540000000000d642000000000d660000000000d802000000,
    0x000d810000000000d842000000000d850000000000d972000000000d9a0000000000db22000000000db30000000,
    0x000dbc2000000000dbd0000000000dbe2000000000dc00000000000dc72000000000dca0000000000dcb2000000,
    0x000dcf0000000000dd52000000000dd60000000000dd72000000000dd80000000000de02000000000de60000000,
    0x000df02000000000df20000000000df52000000000e010000000000e334000ce2000e340000000000e3b2000000,
    0x000e3f0000000000e5c2000000000e810000000000e832000000000e840000000000e852000000000e860000000,
    0x000e8b2000000000e8c0000000000ea42000000000ea50000000000ea62000000000ea70000000000eb34000d22,
    0x000eb40000000000ebe2000000000ec00000000000ec52000000000ec60000000000ec72000000000ec80000000,
    0x000ece2000000000ed00000000000eda2000000000edc4000d62000edd4000da2000ede0000000000ee02000000,
    0x000f000000000000f0c3000f0b000f0d0000000000f434000de2000f440000000000f482000000000f490000000,
    0x000f4d4000e22000f4e0000000000f524000e62000f530000000000f574000ea2000f580000000000f5c4000ee2,
    0x000f5d0000000000f694000f22000f6a0000000000f6d2000000000f710000000000f734000f62000f740000000,
    0x000f754000fa2000f764000fe2000f774001023000f784001082000f7940010c3000f7a0000000000f814001042,
    0x000f820000000000f934001122000f940000000000f982000000000f990000000000f9d4001162000f9e0000000,
    0x000fa240011a2000fa30000000000fa740011e2000fa80000000000fac4001222000fad0000000000fb94001262,
    0x000fba0000000000fbd2000000000fbe0000000000fcd2000000000fce0000000000fdb20000000010000000000,
    0x0010a020000000010c73002d270010c820000000010cd3002d2d0010ce20000000010d000000000010fc30010dc,
    0x0010fd000000000115f20000000011610000000001249200000000124a000000000124e20000000012500000000,
    0x00125720000000012580000000001259200000000125a000000000125e200000000126000000000012892000000,
    0x00128a000000000128e200000000129000000000012b120000000012b200000000012b620000000012b80000000,
    0x0012bf20000000012c000000000012c120000000012c200000000012c620000000012c800000000012d72000000,
    0x0012d80000000001311200000000131200000000013162000000001318000000000135b200000000135d0000000,
    0x00137d2000000001380000000000139a20000000013a000000000013f620000000013f830013f00013fe2000000,
    0x00140000000000016802000000001681000000000169d20000000016a000000000016f920000000017000000000,
    0x00170d200000000170e000000000171520000000017200000000001737200000000174000000000017542000000,
    0x001760000000000176d200000000176e00000000017712000000001772000000000177420000000017800000000,
    0x0017b420000000017b600000000017de20000000017e000000000017ea20000000017f000000000017fa2000000,
    0x00180000000000018062000000001807000000000180b100000000180e2000000001810000000000181a2000000,
    0x0018200000000001879200000000188000000000018ab20000000018b000000000018f620000000019000000000,
    0x00191f2000000001920000000000192c2000000001930000000000193c200000000194000000000019412000000,
    0x001944000000000196e20000000019700000000001975200000000198000000000019ac20000000019b00000000,
    0x0019ca20000000019d000000000019db20000000019de0000000001a1c2000000001a1e0000000001a5f2000000,
    0x001a600000000001a7d2000000001a7f0000000001a8a2000000001a900000000001a9a2000000001aa00000000,
    0x001aae2000000001ab00000000001ac12000000001b000000000001b4c2000000001b500000000001b7d2000000,
    0x001b800000000001bf42000000001bfc0000000001c382000000001c3b0000000001c4a2000000001c4d0000000,
    0x001c803000432001c813000434001c82300043e001c833000441001c853000442001c86300044a001c873000463,
    0x001c88300a64b001c892000000001c9030010d0001cbb2000000001cbd30010fd001cc00000000001cc82000000,
    0x001cd00000000001cfb2000000001d000000000001d2c3000061001d2d30000e6001d2e3000062001d2f0000000,
    0x001d303000064001d3230001dd001d333000067001d3b0000000001d3c300006f001d3d3000223001d3e3000070,
    0x001d3f3000072001d403000074001d423000077001d433000061001d443000250001d463001d02001d473000062,
    0x001d483000064001d4a3000259001d4b300025b001d4d3000067001d4e0000000001d4f300006b001d50300006d,
    0x001d51300014b001d52300006f001d533000254001d543001d16001d563000070001d573000074001d593001d1d,
    0x001d5a300026f001d5b3000076001d5c3001d25001d5d30003b2001d6030003c6001d623000069001d633000072,
    0x001d643000075001d6630003b2001d6830003c1001d6930003c6001d6b0000000001d78300043d001d790000000,
    0x001d9b3000252001d9c3000063001d9d3000255001d9e30000f0001d9f300025c001da03000066001da1300025f,
    0x001da23000261001da33000265001da43000268001da73001d7b001da8300029d001da9300026d001daa3001d85,
    0x001dab300029f001dac3000271001dad3000270001dae3000272001db23000278001db33000282001db530001ab,
    0x001db63000289001db83001d1c001db9300028b001dbb300007a001dbc3000290001dbf30003b8001dc00000000,
    0x001dfa2000000001dfb0000000001e008000000001e960000000001e9a40012a2001e9b3001e61001e9c0000000,
    0x001e9e4000222001e9f0000000001ea08000000001f000000000001f083001f00001f100000000001f162000000,
    0x001f183001f10001f1e2000000001f200000000001f283001f20001f300000000001f383001f30001f400000000,
    0x001f462000000001f483001f40001f4e2000000001f500000000001f582000000001f593001f51001f5a2000000,
    0x001f5b3001f53001f5c2000000001f5d3001f55001f5e2000000001f5f3001f57001f600000000001f683001f60,
    0x001f700000000001f7130003ac001f720000000001f7330003ad001f740000000001f7530003ae001f760000000,
    0x001f7730003af001f780000000001f7930003cc001f7a0000000001f7b30003cd001f7c0000000001f7d30003ce,
    0x001f7e2000000001f8040012e2001f814001322001f824001362001f8340013a2001f8440013e2001f854001422,
    0x001f864001462001f8740014a2001f8840012e2001f894001322001f8a4001362001f8b40013a2001f8c40013e2,
    0x001f8d4001422001f8e4001462001f8f40014a2001f9040014e2001f914001522001f924001562001f9340015a2,
    0x001f9440015e2001f954001622001f964001662001f9740016a2001f9840014e2001f994001522001f9a4001562,
    0x001f9b40015a2001f9c40015e2001f9d4001622001f9e4001662001f9f40016a2001fa040016e2001fa14001722,
    0x001fa24001762001fa340017a2001fa440017e2001fa54001822001fa64001862001fa740018a2001fa840016e2,
    0x001fa94001722001faa4001762001fab40017a2001fac40017e2001fad4001822001fae4001862001faf40018a2,
    0x001fb00000000001fb240018e2001fb34001922001fb44001962001fb52000000001fb60000000001fb740019a2,
    0x001fb83001fb0001fba3001f70001fbb30003ac001fbc4001922001fbd70019e2001fbe30003b9001fbf70019e2,
    0x001fc07001a22001fc17001a63001fc24001ac2001fc34001b02001fc44001b42001fc52000000001fc60000000,
    0x001fc74001b82001fc83001f72001fc930003ad001fca3001f74001fcb30003ae001fcc4001b02001fcd7001bc3,
    0x001fce7001c23001fcf7001c83001fd00000000001fd33000390001fd42000000001fd60000000001fd83001fd0,
    0x001fda3001f76001fdb30003af001fdc2000000001fdd7001ce3001fde7001d43001fdf7001da3001fe00000000,
    0x001fe330003b0001fe40000000001fe83001fe0001fea3001f7a001feb30003cd001fec3001fe5001fed7001e03,
    0x001fee7000663001fef6000060001ff02000000001ff24001e62001ff34001ea2001ff44001ee2001ff52000000,
    0x001ff60000000001ff74001f22001ff83001f78001ff930003cc001ffa3001f7c001ffb30003ce001ffc4001ea2,
    0x001ffd7000082001ffe7001ce2001fff20000000020006000020002001600002000200260000200020036000020,
    0x00200460000200020056000020002006600002000200760000200020086000020002009600002000200a6000020,
    0x00200b100000000200c900000000200e20000000020100000000002011300201000201200000000020177001f62,
    0x002018000000000202420000000020270000000002028200000000202f600002000203000000000020334001fa2,
    0x0020344001fe3002035000000000203640020420020374002083002038000000000203c70020e200203d0000000,
    0x00203e700212200203f0000000002047700216200204870021a200204970021e200204a00000000020574001fa4,
    0x002058000000000205f600002000206010000000020612000000002064100000000206520000000020703000030,
    0x00207130000690020722000000002074300003400207a600002b00207b300221200207c600003d00207d6000028,
    0x00207f300006e002080300003000208a600002b00208b300221200208c600003d00208d600002800208f2000000,
    0x00209030000610020913000065002092300006f002093300007800209430002590020953000068002096300006b,
    0x00209a300007000209b300007300209d20000000020a000000000020a840022220020a900000000020c02000000,
    0x0020d000000000020f12000000002100700226300210170022c3002102300006300210340023220021040000000,
    0x002105700236300210670023c3002107300025b0021080000000002109400242200210a300006700210c3000068,
    0x00210d300006800210e300006800210f300012700211030000690021113000069002112300006c002113300006c,
    0x0021140000000002115300006e00211640024620021170000000002119300007000211c300007200211d3000072,
    0x00211e000000000212040024a200212140024e300212240025420021230000000002124300007a0021250000000,
    0x00212630003c90021270000000002128300007a002129000000000212a300006b00212b30000e500212c3000062,
    0x00212e000000000212f300006500213030000650021322000000002133300006d002134300006f00213530005d0,
    0x002139300006900213a000000000213b400258300213c30003c000213d30003b300213e30003b300213f30003c0,
    0x0021403002211002141000000000214530000640021463000064002148300006900214a000000000215040025e3,
    0x002151400264300215240026a40021534002723002154400278300215540027e3002156400284300215740028a3,
    0x0021584002903002159400296300215a40029c300215b4002a2300215c4002a8300215d4002ae300215e4002b43,
    0x00215f400010200216030000690021614002ba20021624002be30021634002c4200216430000760021654002c82,
    0x0021664002cc30021674002d240021684002da2002169300007800216a4002de200216b4002e2300216c300006c,
    0x00216d300006300216f300006d00217030000690021714002ba20021724002ba30021734002c420021743000076,
    0x0021754002c820021764002cc30021774002d240021784002da2002179300007800217a4002de200217b4002e23,
    0x00217c300006c00217d300006300217f300006d0021800000000002183200000000218400000000021894002e83,
    0x00218a000000000218c2000000002190000000000222c4002ee200222d4002f2300222e000000000222f4002f82,
    0x0022304002fc300223100000000022605000000002261000000000226e500000000227000000000023293003008,
    0x00232b00000000024272000000002440000000000244b2000000002460300003100246940026e200246a4003022,
    0x00246b400306200246c40030a200246d40030e200246e400312200246f400316200247040031a200247140031e2,
    0x0024724003222002473400326200247470032a30024757003303002476700336300247770033c30024787003423,
    0x002479700348300247a70034e300247b700354300247c70035a300247d700360400247e700368400247f7003704,
    0x002480700378400248170038040024827003884002483700390400248470039840024857003a040024867003a84,
    0x0024877003b04002488200000000249c7003b8300249d7003be300249e7003c4300249f7003ca30024a07003d03,
    0x0024a17003d630024a27003dc30024a37003e230024a47003e830024a57003ee30024a67003f430024a77003fa3,
    0x0024a870040030024a970040630024aa70040c30024ab70041230024ac70041830024ad70041e30024ae7004243,
    0x0024af70042a30024b070043030024b170043630024b270043c30024b370044230024b470044830024b570044e3,
    0x0024b630000610024d030000610024ea30000300024eb0000000002a0c4002ee4002a0d0000000002a747004543,
    0x002a7570045a2002a767004583002a770000000002adc40045e2002add0000000002b742000000002b760000000,
    0x002b962000000002b970000000002c003002c30002c2f2000000002c300000000002c5f2000000002c603002c61,
    0x002c610000000002c62300026b002c633001d7d002c64300027d002c650000000002c678000000002c6d3000251,
    0x002c6e3000271002c6f3000250002c703000252002c710000000002c723002c73002c730000000002c753002c76,
    0x002c760000000002c7c300006a002c7d3000076002c7e300023f002c808000000002ce40000000002ceb8000000,
    0x002cef0000000002cf23002cf3002cf30000000002cf42000000002cf90000000002d262000000002d270000000,
    0x002d282000000002d2d0000000002d2e2000000002d300000000002d682000000002d6f3002d61002d700000000,
    0x002d712000000002d7f0000000002d972000000002da00000000002da72000000002da80000000002daf2000000,
    0x002db00000000002db72000000002db80000000002dbf2000000002dc00000000002dc72000000002dc80000000,
    0x002dcf2000000002dd00000000002dd72000000002dd80000000002ddf2000000002de00000000002e532000000,
    0x002e800000000002e9a2000000002e9b0000000002e9f3006bcd002ea00000000002ef33009f9f002ef42000000,
    0x002f003004e00002f013004e28002f023004e36002f033004e3f002f043004e59002f053004e85002f063004e8c,
    0x002f073004ea0002f083004eba002f09300513f002f0a3005165002f0b300516b002f0c3005182002f0d3005196,
    0x002f0e30051ab002f0f30051e0002f1030051f5002f113005200002f12300529b002f1330052f9002f143005315,
    0x002f15300531a002f163005338002f173005341002f18300535c002f193005369002f1a3005382002f1b30053b6,
    0x002f1c30053c8002f1d30053e3002f1e30056d7002f1f300571f002f2030058eb002f213005902002f22300590a,
    0x002f233005915002f243005927002f253005973002f263005b50002f273005b80002f283005bf8002f293005c0f,
    0x002f2a3005c22002f2b3005c38002f2c3005c6e002f2d3005c71002f2e3005ddb002f2f3005de5002f303005df1,
    0x002f313005dfe002f323005e72002f333005e7a002f343005e7f002f353005ef4002f363005efe002f373005f0b,
    0x002f383005f13002f393005f50002f3a3005f61002f3b3005f73002f3c3005fc3002f3d3006208002f3e3006236,
    0x002f3f300624b002f40300652f002f413006534002f423006587002f433006597002f4430065a4002f4530065b9,
    0x002f4630065e0002f4730065e5002f4830066f0002f493006708002f4a3006728002f4b3006b20002f4c3006b62,
    0x002f4d3006b79002f4e3006bb3002f4f3006bcb002f503006bd4002f513006bdb002f523006c0f002f533006c14,
    0x002f543006c34002f55300706b002f56300722a002f573007236002f58300723b002f59300723f002f5a3007247,
    0x002f5b3007259002f5c300725b002f5d30072ac002f5e3007384002f5f3007389002f6030074dc002f6130074e6,
    0x002f623007518002f63300751f002f643007528002f653007530002f66300758b002f673007592002f683007676,
    0x002f69300767d002f6a30076ae002f6b30076bf002f6c30076ee002f6d30077db002f6e30077e2002f6f30077f3,
    0x002f70300793a002f7130079b8002f7230079be002f733007a74002f743007acb002f753007af9002f763007c73,
    0x002f773007cf8002f783007f36002f793007f51002f7a3007f8a002f7b3007fbd002f7c3008001002f7d300800c,
    0x002f7e3008012002f7f3008033002f80300807f002f813008089002f8230081e3002f8330081ea002f8430081f3,
    0x002f8530081fc002f86300820c002f87300821b002f88300821f002f89300826e002f8a3008272002f8b3008278,
    0x002f8c300864d002f8d300866b002f8e3008840002f8f300884c002f903008863002f91300897e002f92300898b,
    0x002f9330089d2002f943008a00002f953008c37002f963008c46002f973008c55002f983008c78002f993008c9d,
    0x002f9a3008d64002f9b3008d70002f9c3008db3002f9d3008eab002f9e3008eca002f9f3008f9b002fa03008fb0,
    0x002fa13008fb5002fa23009091002fa33009149002fa430091c6002fa530091cc002fa630091d1002fa73009577,
    0x002fa83009580002fa9300961c002faa30096b6002fab30096b9002fac30096e8002fad3009751002fae300975e,
    0x002faf3009762002fb03009769002fb130097cb002fb230097ed002fb330097f3002fb43009801002fb530098a8,
    0x002fb630098db002fb730098df002fb83009996002fb93009999002fba30099ac002fbb3009aa8002fbc3009ad8,
    0x002fbd3009adf002fbe3009b25002fbf3009b2f002fc03009b32002fc13009b3c002fc23009b5a002fc33009ce5,
    0x002fc43009e75002fc53009e7f002fc63009ea5002fc73009ebb002fc83009ec3002fc93009ecd002fca3009ed1,
    0x002fcb3009ef9002fcc3009efd002fcd3009f0e002fce3009f13002fcf3009f20002fd03009f3b002fd13009f4a,
    0x002fd23009f52002fd33009f8d002fd43009f9c002fd53009fa0002fd6200000000300060000200030010000000,
    0x003002300002e0030030000000003036300301200303700000000030383005341003039300534400303b0000000,
    0x003040200000000304100000000030972000000003099000000000309b700462200309c700466200309d0000000,
    0x00309f40046a20030a000000000030ff40046e20031002000000003105000000000313020000000031313001100,
    0x00313330011aa003134300110200313530011ac003137300110300313a30011b0003140300111a0031413001106,
    0x0031443001121003145300110900314f30011610031642000000003165300111400316730011c700316930011cc,
    0x00316a30011ce00316b30011d300316c30011d700316d30011d900316e300111c00316f30011dd00317030011df,
    0x003171300111d0031733001120003174300112200317630011270031773001129003178300112b00317d3001132,
    0x00317e300113600317f30011400031803001147003181300114c00318230011f100318430011570031873001184,
    0x003189300118800318a300119100318c300119400318d300119e00318e30011a100318f20000000031900000000,
    0x0031923004e000031933004e8c0031943004e0900319530056db0031963004e0a0031973004e2d0031983004e0b,
    0x003199300753200319a3004e5900319b3004e1900319c3004e0100319d300592900319e300573000319f3004eba,
    0x0031a000000000031e420000000031f000000000032007004723003201700478300320270047e30032037004843,
    0x00320470048a30032057004903003206700496300320770049c30032087004a230032097004a8300320a7004ae3,
    0x00320b7004b4300320c7004ba300320d7004c0300320e7004c6300320f7004cc30032107004d230032117004d83,
    0x0032127004de30032137004e430032147004ea30032157004f030032167004f630032177004fc30032187005023,
    0x003219700508300321a70050e300321b700514300321c70051a300321d700520400321e700528400321f2000000,
    0x0032207005303003221700536300322270053c30032237005423003224700548300322570054e30032267005543,
    0x00322770055a30032287005603003229700566300322a70056c300322b700572300322c700578300322d70057e3,
    0x00322e700584300322f70058a30032307005903003231700596300323270059c30032337005a230032347005a83,
    0x0032357005ae30032367005b430032377005ba30032387005c030032397005c6300323a7005cc300323b7005d23,
    0x00323c7005d8300323d7005de300323e7005e4300323f7005ea30032407005f030032417005f630032427005fc3,
    0x0032437006023003244300554f0032453005e7c00324630065870032473007b8f00324800000000032504006083,
    0x003251400308200325240060e200325340001a20032544006122003255400616200325640061a200325740061e2,
    0x0032584006222003259400626200325a40062a200325b40027c200325c400276200325d40062e200325e4006322,
    0x00325f40063620032603001100003261300110200326330011050032663001109003267300110b003269300110e,
    0x00326e300ac0000326f300b098003270300b2e4003271300b77c003272300b9c8003273300bc14003274300c0ac,
    0x003275300c544003276300c790003277300cc28003278300ce74003279300d0c000327a300d30c00327b300d558,
    0x00327c40063a200327d40063e200327e300c6b000327f00000000032803004e000032813004e8c0032823004e09,
    0x00328330056db0032843004e94003285300516d0032863004e03003287300516b0032883004e5d0032893005341,
    0x00328a300670800328b300706b00328c3006c3400328d300672800328e30091d100328f300571f00329030065e5,
    0x003291300682a0032923006709003293300793e003294300540d00329530072790032963008ca1003297300795d,
    0x00329830052b400329930079d800329a300753700329b300597300329c300906900329d300512a00329e3005370,
    0x00329f3006ce80032a030098050032a13004f110032a230051990032a33006b630032a43004e0a0032a53004e2d,
    0x0032a63004e0b0032a73005de60032a830053f30032a9300533b0032aa3005b970032ab3005b660032ac30076e3,
    0x0032ad3004f010032ae3008cc70032af30053540032b0300591c0032b140064220032b240064620032b340064a2,
    0x0032b440064e20032b540065220032b640001420032b740061420032b840063420032b940065620032ba40065a2,
    0x0032bb40065e20032bc40066220032bd40066620032be40066a20032bf40066e20032c040067220032c14006762,
    0x0032c240067a20032c340067e20032c440068220032c540068620032c640068a20032c740068e20032c84006922,
    0x0032c940069630032ca40069c30032cb4006a230032cc4006a820032cd4006ac30032ce4006b220032cf4006b63,
    0x0032d030030a20032d130030a40032d230030a60032d330030a80032d430030aa0032d630030ad0032d730030af,
    0x0032d830030b10032d930030b30032da30030b50032db30030b70032dc30030b90032dd30030bb0032de30030bd,
    0x0032df30030bf0032e030030c10032e130030c40032e230030c60032e330030c80032e430030ca0032ea30030d2,
    0x0032eb30030d50032ec30030d80032ed30030db0032ee30030de0032f330030e40032f430030e60032f530030e8,
    0x0032fb30030ef0032ff4006bc20033004006c040033014006c840033024006d040033034006d830033044006de4,
    0x0033054006e630033064006ec30033074006f250033084006fc4003309400704300330a40070a300330b4007103,
    0x00330c400716400330d40071e400330e400726300330f40072c30033104007322003311400736300331240073c4,
    0x003313400744400331440074c2003315400750500331640075a6003317400766500331840075430033194007705,
    0x00331a40077a500331b400784400331c40078c300331d400792300331e400798300331f40079e40033204007a65,
    0x0033214007b040033224007b830033234007be30033244007c430033254007ca20033264007ce20033274007762,
    0x0033284007d220033294007d6300332a4007dc300332b4007e2500332c4007ec300332d4007f2400332e4007fa5,
    0x00332f400804300333040080a200333140080e2003332400812500333340081c4003334400824500333540082e3,
    0x003336400834500333740083e20033384008423003339400848300333a40084e300333b400854300333c40085a3,
    0x00333d400860400333e400868300333f40086e20033404008723003341400878300334240087e30033434008844,
    0x00334440088c30033454008923003346400898300334740089e50033484008a840033494008b0200334a4008b45,
    0x00334b4008be200334c4008c2400334d40075e400334e4008ca300334f4008d030033504008d630033514008dc4,
    0x0033524008e420033534008e830033544008ee40033554008f620033564008fa500335740076a30033584009042,
    0x003359400908200335a40090c200335b400910200335c400914200335d400918200335e40091c200335f4009202,
    0x0033604009242003361400928200336240092c30033634009323003364400938300336540093e30033664009443,
    0x00336740094a30033684009503003369400956300336a40095c300336b400962300336c400968300336d40096e3,
    0x00336e400974300336f40097a30033704009803003371400986300337240098c200337340099020033744009943,
    0x00337540099a200337640099e20033774009a220033784009a630033794009ac300337a4009b2200337b4009b62,
    0x00337c4009ba200337d4009be200337e4009c2200337f4009c6400338040098820033814009ce20033824009d22,
    0x0033834009d620033844009da20033854009de20033864009e220033874009e620033884009ea30033894009f04,
    0x00338a4009f8200338b4009fc200338c400a00200338d400a04200338e400a08200338f400a0c2003390400a102,
    0x003391400a143003392400a1a3003393400a0e3003394400a203003395400a262003396400a2a2003397400a2e2,
    0x003398400a322003399400a36200339a400a3a200339b400a3e200339c400a42200339d400a46200339e400a4a2,
    0x00339f400a4e30033a0400a5430033a14009a820033a2400a5a30033a3400a6030033a4400a6630033a54009ae2,
    0x0033a6400a6c30033a7400a7230033a8400a7840033a940098820033aa400a8030033ab400a8630033ac400a8c3,
    0x0033ad400a9230033ae400a9850033af400aa260033b0400aae20033b1400ab220033b2400ab620033b3400aba2,
    0x0033b4400abe20033b5400ac220033b6400ac620033b7400aca20033b8400ace20033b9400aca20033ba400ad22,
    0x0033bb400ad620033bc400ada20033bd400ade20033be400ae220033bf400ade20033c0400ae620033c1400aea2,
    0x0033c220000000033c3400aee20033c440023420033c54009a020033c6400af240033c720000000033c8400afa2,
    0x0033c9400afe20033ca400b0220033cb40098620033cc400b0620033cd400b0a20033ce400a4a20033cf400b0e2,
    0x0033d0400a2820033d1400b1220033d2400b1630033d3400b1c20033d44009e220033d5400b2030033d6400b263,
    0x0033d7400b2c20033d820000000033d9400b3030033da400b3620033db400aa020033dc400b3a20033dd400b3e2,
    0x0033de400b4230033df400b4830033e0400b4e20033e1400b5220033e2400b5620033e3400b5a20033e4400b5e2,
    0x0033e5400b6220033e6400b6620033e7400b6a20033e8400b6e20033e9400b7230033ea400b7830033eb400b7e3,
    0x0033ec400b8430033ed400b8a30033ee400b9030033ef400b9630033f0400b9c30033f1400ba230033f2400ba83,
    0x0033f3400bae30033f4400bb430033f5400bba30033f6400bc030033f7400bc630033f8400bcc30033f9400bd23,
    0x0033fa400bd830033fb400bde30033fc400be430033fd400bea30033fe400bf030033ff400bf630034000000000,
    0x009ffd200000000a000000000000a48d200000000a490000000000a4c7200000000a4d0000000000a62c2000000,
    0x00a640800000000a66e000000000a680800000000a69c300044a00a69d300044c00a69e000000000a6f82000000,
    0x00a700000000000a722800000000a730000000000a732800000000a770300a76f00a771000000000a7798000000,
    0x00a77d3001d7900a77e800000000a788000000000a78b300a78c00a78c000000000a78d300026500a78e0000000,
    0x00a790800000000a794000000000a796800000000a7aa300026600a7ab300025c00a7ac300026100a7ad300026c,
    0x00a7ae300026a00a7af000000000a7b0300029e00a7b1300028700a7b2300029d00a7b3300ab5300a7b48000000,
    0x00a7c0200000000a7c2300a7c300a7c3000000000a7c4300a79400a7c5300028200a7c63001d8e00a7c78000000,
    0x00a7cb200000000a7f5300a7f600a7f6000000000a7f8300012700a7f9300015300a7fa000000000a82d2000000,
    0x00a830000000000a83a200000000a840000000000a878200000000a880000000000a8c6200000000a8ce0000000,
    0x00a8da200000000a8e0000000000a954200000000a95f000000000a97d200000000a980000000000a9ce2000000,
    0x00a9cf000000000a9da200000000a9de000000000a9ff200000000aa00000000000aa37200000000aa400000000,
    0x00aa4e200000000aa50000000000aa5a200000000aa5c000000000aac3200000000aadb000000000aaf72000000,
    0x00ab01000000000ab07200000000ab09000000000ab0f200000000ab11000000000ab17200000000ab200000000,
    0x00ab27200000000ab28000000000ab2f200000000ab30000000000ab5c300a72700ab5d300ab3700ab5e300026b,
    0x00ab5f300ab5200ab60000000000ab69300028d00ab6a000000000ab6c200000000ab7030013a000abc00000000,
    0x00abee200000000abf0000000000abfa200000000ac00000000000d7a4200000000d7b0000000000d7c72000000,
    0x00d7cb000000000d7fc200000000f9003008c4800f90130066f400f9023008eca00f9033008cc800f9043006ed1,
    0x00f9053004e3200f90630053e500f9073009f9c00f9083009f9c00f909300595100f90a30091d100f90b3005587,
    0x00f90c300594800f90d30061f600f90e300766900f90f3007f8500f910300863f00f91130087ba00f91230088f8,
    0x00f913300908f00f9143006a0200f9153006d1b00f91630070d900f91730073de00f918300843d00f919300916a,
    0x00f91a30099f100f91b3004e8200f91c300537500f91d3006b0400f91e300721b00f91f300862d00f9203009e1e,
    0x00f9213005d5000f9223006feb00f92330085cd00f924300896400f92530062c900f92630081d800f927300881f,
    0x00f9283005eca00f929300671700f92a3006d6a00f92b30072fc00f92c30090ce00f92d3004f8600f92e30051b7,
    0x00f92f30052de00f93030064c400f9313006ad300f932300721000f93330076e700f934300800100f9353008606,
    0x00f936300865c00f9373008def00f938300973200f9393009b6f00f93a3009dfa00f93b300788c00f93c300797f,
    0x00f93d3007da000f93e30083c900f93f300930400f9403009e7f00f9413008ad600f94230058df00f9433005f04,
    0x00f9443007c6000f945300807e00f946300726200f94730078ca00f9483008cc200f94930096f700f94a30058d8,
    0x00f94b3005c6200f94c3006a1300f94d3006dda00f94e3006f0f00f94f3007d2f00f9503007e3700f951300964b,
    0x00f95230052d200f953300808b00f95430051dc00f95530051cc00f9563007a1c00f9573007dbe00f95830083f1,
    0x00f959300967500f95a3008b8000f95b30062cf00f95c3006a0200f95d3008afe00f95e3004e3900f95f3005be7,
    0x00f960300601200f961300738700f962300757000f963300531700f96430078fb00f9653004fbf00f9663005fa9,
    0x00f9673004e0d00f9683006ccc00f969300657800f96a3007d2200f96b30053c300f96c300585e00f96d3007701,
    0x00f96e300844900f96f3008aaa00f9703006bba00f9713008fb000f9723006c8800f97330062fe00f97430082e5,
    0x00f97530063a000f976300756500f9773004eae00f978300516900f97930051c900f97a300688100f97b3007ce7,
    0x00f97c300826f00f97d3008ad200f97e30091cf00f97f30052f500f980300544200f981300597300f9823005eec,
    0x00f98330065c500f9843006ffe00f985300792a00f98630095ad00f9873009a6a00f9883009e9700f9893009ece,
    0x00f98a300529b00f98b30066c600f98c3006b7700f98d3008f6200f98e3005e7400f98f300619000f9903006200,
    0x00f991300649a00f9923006f2300f993300714900f994300748900f99530079ca00f9963007df400f997300806f,
    0x00f9983008f2600f99930084ee00f99a300902300f99b300934a00f99c300521700f99d30052a300f99e30054bd,
    0x00f99f30070c800f9a030088c200f9a13008aaa00f9a23005ec900f9a33005ff500f9a4300637b00f9a53006bae,
    0x00f9a63007c3e00f9a7300737500f9a83004ee400f9a930056f900f9aa3005be700f9ab3005dba00f9ac300601c,
    0x00f9ad30073b200f9ae300746900f9af3007f9a00f9b0300804600f9b1300923400f9b230096f600f9b33009748,
    0x00f9b4300981800f9b53004f8b00f9b630079ae00f9b730091b400f9b830096b800f9b930060e100f9ba3004e86,
    0x00f9bb30050da00f9bc3005bee00f9bd3005c3f00f9be300659900f9bf3006a0200f9c030071ce00f9c13007642,
    0x00f9c230084fc00f9c3300907c00f9c43009f8d00f9c5300668800f9c6300962e00f9c7300528900f9c8300677b,
    0x00f9c930067f300f9ca3006d4100f9cb3006e9c00f9cc300740900f9cd300755900f9ce300786b00f9cf3007d10,
    0x00f9d0300985e00f9d1300516d00f9d2300622e00f9d3300967800f9d4300502b00f9d53005d1900f9d63006dea,
    0x00f9d73008f2a00f9d83005f8b00f9d9300614400f9da300681700f9db300738700f9dc300968600f9dd3005229,
    0x00f9de300540f00f9df3005c6500f9e0300661300f9e1300674e00f9e230068a800f9e33006ce500f9e43007406,
    0x00f9e530075e200f9e63007f7900f9e730088cf00f9e830088e100f9e930091cc00f9ea30096e200f9eb300533f,
    0x00f9ec3006eba00f9ed300541d00f9ee30071d000f9ef300749800f9f030085fa00f9f130096a300f9f23009c57,
    0x00f9f33009e9f00f9f4300679700f9f53006dcb00f9f630081e800f9f73007acb00f9f83007b2000f9f93007c92,
    0x00f9fa30072c000f9fb300709900f9fc3008b5800f9fd3004ec000f9fe300833600f9ff300523a00fa003005207,
    0x00fa013005ea600fa0230062d300fa033007cd600fa043005b8500fa053006d1e00fa0630066b400fa073008f3b,
    0x00fa08300884c00fa09300964d00fa0a300898b00fa0b3005ed300fa0c300514000fa0d30055c000fa0e0000000,
    0x00fa10300585a00fa11000000000fa12300667400fa13000000000fa1530051de00fa16300732a00fa1730076ca,
    0x00fa18300793c00fa19300795e00fa1a300796500fa1b300798f00fa1c300975600fa1d3007cbe00fa1e3007fbd,
    0x00fa1f000000000fa20300861200fa21000000000fa223008af800fa23000000000fa25300903800fa2630090fd,
    0x00fa27000000000fa2a30098ef00fa2b30098fc00fa2c300992800fa2d3009db400fa2e30090de00fa2f30096b7,
    0x00fa303004fae00fa3130050e700fa32300514d00fa3330052c900fa3430052e400fa35300535100fa36300559d,
    0x00fa37300560600fa38300566800fa39300584000fa3a30058a800fa3b3005c6400fa3c3005c6e00fa3d3006094,
    0x00fa3e300616800fa3f300618e00fa4030061f200fa41300654f00fa4230065e200fa43300669100fa443006885,
    0x00fa453006d7700fa463006e1a00fa473006f2200fa48300716e00fa49300722b00fa4a300742200fa4b3007891,
    0x00fa4c300793e00fa4d300794900fa4e300794800fa4f300795000fa50300795600fa51300795d00fa52300798d,
    0x00fa543007a4000fa553007a8100fa563007bc000fa573007df400fa583007e0900fa593007e4100fa5a3007f72,
    0x00fa5b300800500fa5c30081ed00fa5d300827900fa5e300827900fa5f300845700fa60300891000fa613008996,
    0x00fa623008b0100fa633008b3900fa643008cd300fa653008d0800fa663008fb600fa67300903800fa6830096e3,
    0x00fa6930097ff00fa6a300983b00fa6b300607500fa6c30242ee00fa6d300821800fa6e200000000fa703004e26,
    0x00fa7130051b500fa72300516800fa733004f8000fa74300514500fa75300518000fa7630052c700fa7730052fa,
    0x00fa78300559d00fa79300555500fa7a300559900fa7b30055e200fa7c300585a00fa7d30058b300fa7e3005944,
    0x00fa7f300595400fa803005a6200fa813005b2800fa823005ed200fa833005ed900fa843005f6900fa853005fad,
    0x00fa8630060d800fa87300614e00fa88300610800fa89300618e00fa8a300616000fa8b30061f200fa8c3006234,
    0x00fa8d30063c400fa8e300641c00fa8f300645200fa90300655600fa91300667400fa92300671700fa93300671b,
    0x00fa94300675600fa953006b7900fa963006bba00fa973006d4100fa983006edb00fa993006ecb00fa9a3006f22,
    0x00fa9b300701e00fa9c300716e00fa9d30077a700fa9e300723500fa9f30072af00faa0300732a00faa13007471,
    0x00faa2300750600faa3300753b00faa4300761d00faa5300761f00faa630076ca00faa730076db00faa830076f4,
    0x00faa9300774a00faaa300774000faab30078cc00faac3007ab100faad3007bc000faae3007c7b00faaf3007d5b,
    0x00fab03007df400fab13007f3e00fab2300800500fab3300835200fab430083ef00fab5300877900fab63008941,
    0x00fab7300898600fab8300899600fab93008abf00faba3008af800fabb3008acb00fabc3008b0100fabd3008afe,
    0x00fabe3008aed00fabf3008b3900fac03008b8a00fac13008d0800fac23008f3800fac3300907200fac43009199,
    0x00fac5300927600fac6300967c00fac730096e300fac8300975600fac930097db00faca30097ff00facb300980b,
    0x00facc300983b00facd3009b1200face3009f9c00facf302284a00fad0302284400fad130233d500fad23003b9d,
    0x00fad3300401800fad4300403900fad5302524900fad63025cd000fad73027ed300fad83009f4300fad93009f8e,
    0x00fada200000000fb00400bfc200fb01400c00200fb02400c04200fb03400bfe300fb04400c08300fb05400c0e2,
    0x00fb07200000000fb13400c12200fb14400c16200fb15400c1a200fb16400c1e200fb17400c22200fb182000000,
    0x00fb1d400c26200fb1e000000000fb1f400c2a200fb2030005e200fb2130005d000fb2230005d300fb2430005db,
    0x00fb2730005e800fb2830005ea00fb29600002b00fb2a400c2e200fb2b400c32200fb2c400c36300fb2d400c3c3,
    0x00fb2e400c42200fb2f400c46200fb30400c4a200fb31400c4e200fb32400c52200fb33400c56200fb34400c5a2,
    0x00fb35400c5e200fb36400c62200fb37200000000fb38400c66200fb39400c6a200fb3a400c6e200fb3b400c722,
    0x00fb3c400c76200fb3d200000000fb3e400c7a200fb3f200000000fb40400c7e200fb41400c82200fb422000000,
    0x00fb43400c86200fb44400c8a200fb45200000000fb46400c8e200fb47400c92200fb48400c96200fb49400c362,
    0x00fb4a400c9a200fb4b400c9e200fb4c400ca2200fb4d400ca6200fb4e400caa200fb4f400cae200fb503000671,
    0x00fb51300067100fb52300067b00fb53300067b00fb54300067b00fb55300067b00fb56300067e00fb57300067e,
    0x00fb58300067e00fb59300067e00fb5a300068000fb5b300068000fb5c300068000fb5d300068000fb5e300067a,
    0x00fb5f300067a00fb60300067a00fb61300067a00fb62300067f00fb63300067f00fb64300067f00fb65300067f,
    0x00fb66300067900fb67300067900fb68300067900fb69300067900fb6a30006a400fb6b30006a400fb6c30006a4,
    0x00fb6d30006a400fb6e30006a600fb6f30006a600fb7030006a600fb7130006a600fb72300068400fb733000684,
    0x00fb74300068400fb75300068400fb76300068300fb77300068300fb78300068300fb79300068300fb7a3000686,
    0x00fb7b300068600fb7c300068600fb7d300068600fb7f300068700fb80300068700fb81300068700fb82300068d,
    0x00fb83300068d00fb84300068c00fb85300068c00fb86300068e00fb87300068e00fb88300068800fb893000688,
    0x00fb8a300069800fb8b300069800fb8c300069100fb8d300069100fb8e30006a900fb8f30006a900fb9030006a9,
    0x00fb9130006a900fb9230006af00fb9330006af00fb9430006af00fb9530006af00fb9630006b300fb9730006b3,
    0x00fb9830006b300fb9930006b300fb9a30006b100fb9b30006b100fb9c30006b100fb9d30006b100fb9e30006ba,
    0x00fb9f30006ba00fba130006bb00fba230006bb00fba330006bb00fba430006c000fba530006c000fba730006c1,
    0x00fba830006c100fba930006c100fbaa30006be00fbab30006be00fbac30006be00fbad30006be00fbae30006d2,
    0x00fbaf30006d200fbb130006d300fbb2000000000fbc2200000000fbd330006ad00fbd430006ad00fbd530006ad,
    0x00fbd630006ad00fbd730006c700fbd830006c700fbd930006c600fbda30006c600fbdb30006c800fbdc30006c8,
    0x00fbdd40007a200fbde30006cb00fbdf30006cb00fbe030006c500fbe130006c500fbe230006c900fbe330006c9,
    0x00fbe430006d000fbe530006d000fbe630006d000fbe730006d000fbe8300064900fbe9300064900fbea400cb22,
    0x00fbec400cb6200fbee400cba200fbf0400cbe200fbf2400cc2200fbf4400cc6200fbf6400cca200fbf9400cce2,
    0x00fbfc30006cc00fbfd30006cc00fbfe30006cc00fbff30006cc00fc00400cd2200fc01400cd6200fc02400cda2,
    0x00fc03400cce200fc04400cde200fc05400ce2200fc06400ce6200fc07400cea200fc08400cee200fc09400cf22,
    0x00fc0a400cf6200fc0b400cfa200fc0c400cfe200fc0d400d02200fc0e400d06200fc0f400d0a200fc10400d0e2,
    0x00fc11400d12200fc12400d16200fc13400d1a200fc14400d1e200fc15400d22200fc16400d26200fc17400d242,
    0x00fc18400d2a200fc19400d2e200fc1a400d32200fc1b400d36200fc1c400d3a200fc1d400d3e200fc1e400d422,
    0x00fc1f400d46200fc20400d4a200fc21400d4e200fc22400d52200fc23400d56200fc24400d5a200fc25400d5e2,
    0x00fc26400d62200fc27400d66200fc28400d6a200fc29400d6e200fc2a400d72200fc2b400d76200fc2c400d7a2,
    0x00fc2d400d7e200fc2e400d82200fc2f400d86200fc30400d8a200fc31400d8e200fc32400d92200fc33400d962,
    0x00fc34400d9a200fc35400d9e200fc36400da2200fc37400da6200fc38400daa200fc39400dae200fc3a400db22,
    0x00fc3b400db6200fc3c400dba200fc3d400dbe200fc3e400dc2200fc3f400dc6200fc40400dca200fc41400dce2,
    0x00fc42400dd2200fc43400dd6200fc44400dda200fc45400dde200fc46400d28200fc47400d2c200fc48400de22,
    0x00fc49400de6200fc4a400dea200fc4b400dee200fc4c400df2200fc4d400df6200fc4e400dfa200fc4f400dfe2,
    0x00fc50400e02200fc51400e06200fc52400e0a200fc53400e0e200fc54400e12200fc55400d20200fc56400e162,
    0x00fc57400e1a200fc58400ddc200fc59400e1e200fc5a400e14200fc5b400e22200fc5c400e26200fc5d400e2a2,
    0x00fc5e700e2e300fc5f700e34300fc60700e3a300fc61700e40300fc62700e46300fc63700e4c300fc64400e522,
    0x00fc65400e56200fc66400cda200fc67400e5a200fc68400cce200fc69400cde200fc6a400e5e200fc6b400e622,
    0x00fc6c400cee200fc6d400e66200fc6e400cf2200fc6f400cf6200fc70400e6a200fc71400e6e200fc72400d062,
    0x00fc73400e72200fc74400d0a200fc75400d0e200fc76400e76200fc77400e7a200fc78400d16200fc79400e7e2,
    0x00fc7a400d1a200fc7b400d1e200fc7c400d8e200fc7d400d92200fc7e400d9e200fc7f400da2200fc80400da62,
    0x00fc81400db6200fc82400dba200fc83400dbe200fc84400dc2200fc85400dd2200fc86400dd6200fc87400dda2,
    0x00fc88400e82200fc89400de2200fc8a400e86200fc8b400e8a200fc8c400dfa200fc8d400e8e200fc8e400dfe2,
    0x00fc8f400e02200fc90400e2a200fc91400e92200fc92400e96200fc93400ddc200fc94400dec200fc95400e1e2,
    0x00fc96400e14200fc97400cd2200fc98400cd6200fc99400e9a200fc9a400cda200fc9b400e9e200fc9c400ce22,
    0x00fc9d400ce6200fc9e400cea200fc9f400cee200fca0400ea2200fca1400cfa200fca2400cfe200fca3400d022,
    0x00fca4400d06200fca5400ea6200fca6400d16200fca7400d22200fca8400d26200fca9400d24200fcaa400d2a2,
    0x00fcab400d2e200fcac400d36200fcad400d3a200fcae400d3e200fcaf400d42200fcb0400d46200fcb1400d4a2,
    0x00fcb2400eaa200fcb3400d4e200fcb4400d52200fcb5400d56200fcb6400d5a200fcb7400d5e200fcb8400d622,
    0x00fcb9400d6a200fcba400d6e200fcbb400d72200fcbc400d76200fcbd400d7a200fcbe400d7e200fcbf400d822,
    0x00fcc0400d86200fcc1400d8a200fcc2400d96200fcc3400d9a200fcc4400daa200fcc5400dae200fcc6400db22,
    0x00fcc7400db6200fcc8400dba200fcc9400dc6200fcca400dca200fccb400dce200fccc400dd2200fccd400eae2,
    0x00fcce400dde200fccf400d28200fcd0400d2c200fcd1400de2200fcd2400dee200fcd3400df2200fcd4400df62,
    0x00fcd5400dfa200fcd6400eb2200fcd7400e06200fcd8400e0a200fcd9400eb6200fcda400d20200fcdb400e162,
    0x00fcdc400e1a200fcdd400ddc200fcde400e04200fcdf400cda200fce0400e9e200fce1400cee200fce2400ea22,
    0x00fce3400d06200fce4400ea6200fce5400d16200fce6400eba200fce7400d46200fce8400ebe200fce9400ec22,
    0x00fcea400ec6200fceb400db6200fcec400dba200fced400dd2200fcee400dfa200fcef400eb2200fcf0400ddc2,
    0x00fcf1400e04200fcf2400eca300fcf3400ed0300fcf4400ed6300fcf5400edc200fcf6400ee0200fcf7400ee42,
    0x00fcf8400ee8200fcf9400eec200fcfa400ef0200fcfb400ef4200fcfc400ef8200fcfd400efc200fcfe400f002,
    0x00fcff400f04200fd00400e18200fd01400f08200fd02400f0c200fd03400f10200fd04400e1c200fd05400f142,
    0x00fd06400f18200fd07400f1c200fd08400f20200fd09400f24200fd0a400f28200fd0b400f2c200fd0c400ec22,
    0x00fd0d400f30200fd0e400f34200fd0f400f38200fd10400f3c200fd11400edc200fd12400ee0200fd13400ee42,
    0x00fd14400ee8200fd15400eec200fd16400ef0200fd17400ef4200fd18400ef8200fd19400efc200fd1a400f002,
    0x00fd1b400f04200fd1c400e18200fd1d400f08200fd1e400f0c200fd1f400f10200fd20400e1c200fd21400f142,
    0x00fd22400f18200fd23400f1c200fd24400f20200fd25400f24200fd26400f28200fd27400f2c200fd28400ec22,
    0x00fd29400f30200fd2a400f34200fd2b400f38200fd2c400f3c200fd2d400f24200fd2e400f28200fd2f400f2c2,
    0x00fd30400ec2200fd31400ebe200fd32400ec6200fd33400d66200fd34400d3a200fd35400d3e200fd36400d422,
    0x00fd37400f24200fd38400f28200fd39400f2c200fd3a400d66200fd3b400d6a200fd3c400f40200fd3e0000000,
    0x00fd40200000000fd50400f44300fd51400f4a300fd53400f50300fd54400f56300fd55400f5c300fd56400f623,
    0x00fd57400f68300fd58400d26300fd5a400f6e300fd5b400f74300fd5c400f7a300fd5d400f80300fd5e400f863,
    0x00fd5f400f8c300fd61400f92300fd62400f98300fd64400f9e300fd66400fa4300fd67400faa300fd69400fb03,
    0x00fd6a400fb6300fd6c400fbc300fd6e400fc2300fd6f400fc8300fd71400fce300fd73400fd4300fd74400fda3,
    0x00fd75400fe0300fd76400fe6300fd78400fec300fd79400ff2300fd7a400ff8300fd7b400ffe300fd7c4010043,
    0x00fd7e40100a300fd7f401010300fd80401016300fd8140101c300fd82401022300fd83401028300fd8540102e3,
    0x00fd87401034300fd8940103a300fd8a400d28300fd8b401040300fd8c401046300fd8d400dde300fd8e400d2c3,
    0x00fd8f40104c300fd90200000000fd92401052300fd93401058300fd9440105e300fd95401064300fd9640106a3,
    0x00fd97401070300fd99401076300fd9a40107c300fd9b401082300fd9c401088300fd9e40108e300fd9f4010943,
    0x00fda040109a300fda14010a0300fda24010a6300fda34010ac300fda44010b2300fda54010b8300fda64010be3,
    0x00fda74010c4300fda84010ca300fda94010d0300fdaa4010d6300fdab4010dc300fdac4010e2300fdad4010e83,
    0x00fdae400e16300fdaf4010ee300fdb04010f4300fdb14010fa300fdb2401100300fdb3401106300fdb440100a3,
    0x00fdb5401016300fdb640110c300fdb7401112300fdb8401118300fdb940111e300fdba401124300fdbb40112a3,
    0x00fdbc401124300fdbd401118300fdbe401130300fdbf401136300fdc040113c300fdc1401142300fdc24011483,
    0x00fdc340112a300fdc4400fe0300fdc5400fa4300fdc640114e300fdc7401154300fdc8200000000fdf040115a3,
    0x00fdf1401160300fdf2401166400fdf340116e400fdf4401176400fdf540117e400fdf6401186400fdf740118e4,
    0x00fdf8401196400fdf940119e300fdfa7011a5200fdfb7011c8800fdfc4011d8400fdfd000000000fdfe2000000,
    0x00fe00100000000fe10600002c00fe11300300100fe12200000000fe13600003a00fe15600002100fe16600003f,
    0x00fe17300301600fe19200000000fe20000000000fe30200000000fe31300201400fe32300201300fe33600005f,
    0x00fe34600005f00fe35600002800fe37600007b00fe38600007d00fe39300301400fe3b300301000fe3d300300a,
    0x00fe3f300300800fe41300300c00fe45000000000fe47600005b00fe48600005d00fe49700212200fe4d600005f,
    0x00fe4e600005f00fe4f600005f00fe50600002c00fe51300300100fe52200000000fe54600003b00fe55600003a,
    0x00fe56600003f00fe57600002100fe58300201400fe59600002800fe5b600007b00fe5c600007d00fe5d3003014,
    0x00fe5f600002300fe60600002600fe61600002a00fe63300002d00fe64600003c00fe65600003e00fe66600003d,
    0x00fe67200000000fe68600005c00fe69600002400fe6b600004000fe6c200000000fe707011e0200fe714011e42,
    0x00fe72700e2e200fe73000000000fe74700e34200fe75200000000fe76700e3a200fe77400eca200fe78700e402,
    0x00fe79400ed0200fe7a700e46200fe7b400ed6200fe7c700e4c200fe7d4011e8200fe7e7011ec200fe7f4011f02,
    0x00fe80300062100fe82300062200fe84300062300fe86300062400fe88300062500fe8a300062600fe8b3000626,
    0x00fe8c300062600fe8e300062700fe90300062800fe91300062800fe92300062800fe94300062900fe96300062a,
    0x00fe97300062a00fe98300062a00fe9a300062b00fe9b300062b00fe9c300062b00fe9e300062c00fe9f300062c,
    0x00fea0300062c00fea2300062d00fea3300062d00fea4300062d00fea6300062e00fea7300062e00fea8300062e,
    0x00feaa300062f00feac300063000feae300063100feb0300063200feb2300063300feb3300063300feb43000633,
    0x00feb6300063400feb7300063400feb8300063400feba300063500febb300063500febc300063500febe3000636,
    0x00febf300063600fec0300063600fec2300063700fec3300063700fec4300063700fec6300063800fec73000638,
    0x00fec8300063800feca300063900fecb300063900fecc300063900fece300063a00fecf300063a00fed0300063a,
    0x00fed1300064100fed2300064100fed3300064100fed4300064100fed6300064200fed7300064200fed83000642,
    0x00feda300064300fedb300064300fedc300064300fede300064400fedf300064400fee0300064400fee23000645,
    0x00fee3300064500fee4300064500fee6300064600fee7300064600fee8300064600feea300064700feeb3000647,
    0x00feec300064700feee300064800fef0300064900fef2300064a00fef3300064a00fef4300064a00fef54011f42,
    0x00fef74011f8200fef94011fc200fefb4011d0200fefd200000000feff100000000ff00200000000ff016000021,
    0x00ff0d300002d00ff0f600002f00ff10300003000ff1a600003a00ff21300006100ff3b600005b00ff413000061,
    0x00ff5b600007b00ff5f300298500ff61300002e00ff62300300c00ff64300300100ff6530030fb00ff6630030f2,
    0x00ff6730030a100ff6830030a300ff6930030a500ff6a30030a700ff6b30030a900ff6c30030e300ff6d30030e5,
    0x00ff6e30030e700ff6f30030c300ff7030030fc00ff7130030a200ff7230030a400ff7330030a600ff7430030a8,
    0x00ff7530030aa00ff7730030ad00ff7830030af00ff7930030b100ff7a30030b300ff7b30030b500ff7c30030b7,
    0x00ff7d30030b900ff7e30030bb00ff7f30030bd00ff8030030bf00ff8130030c100ff8230030c400ff8330030c6,
    0x00ff8430030c800ff8530030ca00ff8b30030d200ff8c30030d500ff8d30030d800ff8e30030db00ff8f30030de,
    0x00ff9430030e400ff9530030e600ff9630030e800ff9c30030ef00ff9d30030f300ff9e300309900ffa02000000,
    0x00ffa1300110000ffa330011aa00ffa4300110200ffa530011ac00ffa7300110300ffaa30011b000ffb0300111a,
    0x00ffb1300110600ffb4300112100ffb5300110900ffbf200000000ffc2300116100ffc8200000000ffca3001167,
    0x00ffd0200000000ffd2300116d00ffd8200000000ffda300117300ffdd200000000ffe030000a200ffe230000ac,
    0x00ffe3700004200ffe430000a600ffe530000a500ffe630020a900ffe7200000000ffe8300250200ffe93002190,
    0x00ffed30025a000ffee30025cb00ffef2000000010000000000001000c200000001000d00000000100272000000,
    0x010028000000001003b200000001003c000000001003e200000001003f000000001004e20000000100500000000,
    0x01005e200000001008000000000100fb20000000101000000000010103200000001010700000000101342000000,
    0x010137000000001018f2000000010190000000001019d20000000101a000000000101a120000000101d00000000,
    0x0101fe2000000010280000000001029d20000000102a000000000102d120000000102e000000000102fc2000000,
    0x0103000000000010324200000001032d000000001034b2000000010350000000001037b20000000103800000000,
    0x01039e200000001039f00000000103c420000000103c800000000103d6200000001040030104280104280000000,
    0x01049e20000000104a000000000104aa20000000104b030104d80104d420000000104d800000000104fc2000000,
    0x010500000000001052820000000105300000000010564200000001056f000000001057020000000106000000000,
    0x0107372000000010740000000001075620000000107600000000010768200000001080000000000108062000000,
    0x0108080000000010809200000001080a000000001083620000000108370000000010839200000001083c0000000,
    0x01083d200000001083f00000000108562000000010857000000001089f20000000108a700000000108b02000000,
    0x0108e000000000108f320000000108f400000000108f620000000108fb000000001091c200000001091f0000000,
    0x01093a200000001093f0000000010940200000001098000000000109b820000000109bc00000000109d02000000,
    0x0109d20000000010a042000000010a050000000010a072000000010a0c0000000010a142000000010a150000000,
    0x010a182000000010a190000000010a362000000010a380000000010a3b2000000010a3f0000000010a492000000,
    0x010a500000000010a592000000010a600000000010aa02000000010ac00000000010ae72000000010aeb0000000,
    0x010af72000000010b000000000010b362000000010b390000000010b562000000010b580000000010b732000000,
    0x010b780000000010b922000000010b990000000010b9d2000000010ba90000000010bb02000000010c000000000,
    0x010c492000000010c803010cc0010cb32000000010cc00000000010cf32000000010cfa0000000010d282000000,
    0x010d300000000010d3a2000000010e600000000010e7f2000000010e800000000010eaa2000000010eab0000000,
    0x010eae2000000010eb00000000010eb22000000010f000000000010f282000000010f300000000010f5a2000000,
    0x010fb00000000010fcc2000000010fe00000000010ff72000000011000000000001104e20000000110520000000,
    0x011070200000001107f00000000110bd20000000110be00000000110c220000000110d000000000110e92000000,
    0x0110f000000000110fa200000001110000000000111352000000011136000000001114820000000111500000000,
    0x011177200000001118000000000111e020000000111e100000000111f5200000001120000000000112122000000,
    0x011213000000001123f2000000011280000000001128720000000112880000000011289200000001128a0000000,
    0x01128e200000001128f000000001129e200000001129f00000000112aa20000000112b000000000112eb2000000,
    0x0112f000000000112fa200000001130000000000113042000000011305000000001130d200000001130f0000000,
    0x01131120000000113130000000011329200000001132a0000000011331200000001133200000000113342000000,
    0x011335000000001133a200000001133b000000001134520000000113470000000011349200000001134b0000000,
    0x01134e2000000011350000000001135120000000113570000000011358200000001135d00000000113642000000,
    0x011366000000001136d200000001137000000000113752000000011400000000001145c200000001145d0000000,
    0x011462200000001148000000000114c820000000114d000000000114da200000001158000000000115b62000000,
    0x0115b800000000115de200000001160000000000116452000000011650000000001165a20000000116600000000,
    0x01166d200000001168000000000116b920000000116c000000000116ca2000000011700000000001171b2000000,
    0x01171d000000001172c200000001173000000000117402000000011800000000001183c20000000118a030118c0,
    0x0118c000000000118f320000000118ff00000000119072000000011909000000001190a200000001190c0000000,
    0x0119142000000011915000000001191720000000119180000000011936200000001193700000000119392000000,
    0x01193b00000000119472000000011950000000001195a20000000119a000000000119a820000000119aa0000000,
    0x0119d820000000119da00000000119e52000000011a000000000011a482000000011a500000000011aa32000000,
    0x011ac00000000011af92000000011c000000000011c092000000011c0a0000000011c372000000011c380000000,
    0x011c462000000011c500000000011c6d2000000011c700000000011c902000000011c920000000011ca82000000,
    0x011ca90000000011cb72000000011d000000000011d072000000011d080000000011d0a2000000011d0b0000000,
    0x011d372000000011d3a0000000011d3b2000000011d3c0000000011d3e2000000011d3f0000000011d482000000,
    0x011d500000000011d5a2000000011d600000000011d662000000011d670000000011d692000000011d6a0000000,
    0x011d8f2000000011d900000000011d922000000011d930000000011d992000000011da00000000011daa2000000,
    0x011ee00000000011ef92000000011fb00000000011fb12000000011fc00000000011ff22000000011fff0000000,
    0x01239a2000000012400000000001246f20000000124700000000012475200000001248000000000125442000000,
    0x013000000000001342f2000000014400000000001464720000000168000000000016a392000000016a400000000,
    0x016a5f2000000016a600000000016a6a2000000016a6e0000000016a702000000016ad00000000016aee2000000,
    0x016af00000000016af62000000016b000000000016b462000000016b500000000016b5a2000000016b5b0000000,
    0x016b622000000016b630000000016b782000000016b7d0000000016b902000000016e403016e60016e600000000,
    0x016e9b2000000016f000000000016f4b2000000016f4f0000000016f882000000016f8f0000000016fa02000000,
    0x016fe00000000016fe52000000016ff00000000016ff2200000001700000000000187f820000000188000000000,
    0x018cd62000000018d000000000018d09200000001b000000000001b11f200000001b150000000001b1532000000,
    0x01b164000000001b168200000001b170000000001b2fc200000001bc00000000001bc6b200000001bc700000000,
    0x01bc7d200000001bc80000000001bc89200000001bc90000000001bc9a200000001bc9c000000001bca01000000,
    0x01bca4200000001d000000000001d0f6200000001d100000000001d127200000001d129000000001d15e4012002,
    0x01d15f401204201d160401208301d16140120e301d162401214301d16340121a301d164401220301d1650000000,
    0x01d173200000001d17b000000001d1bb401226201d1bc40122a201d1bd40122e301d1be401234301d1bf40123a3,
    0x01d1c0401240301d1c1000000001d1e9200000001d200000000001d246200000001d2e0000000001d2f42000000,
    0x01d300000000001d357200000001d360000000001d379200000001d400300006101d41a300006101d4343000061,
    0x01d44e300006101d455200000001d456300006901d468300006101d482300006101d49c300006101d49d2000000,
    0x01d49e300006301d4a0200000001d4a2300006701d4a3200000001d4a5300006a01d4a7200000001d4a9300006e,
    0x01d4ad200000001d4ae300007301d4b6300006101d4ba200000001d4bb300006601d4bc200000001d4bd3000068,
    0x01d4c4200000001d4c5300007001d4d0300006101d4ea300006101d504300006101d506200000001d5073000064,
    0x01d50b200000001d50d300006a01d515200000001d516300007301d51d200000001d51e300006101d5383000061,
    0x01d53a200000001d53b300006401d53f200000001d540300006901d545200000001d546300006f01d5472000000,
    0x01d54a300007301d551200000001d552300006101d56c300006101d586300006101d5a0300006101d5ba3000061,
    0x01d5d4300006101d5ee300006101d608300006101d622300006101d63c300006101d656300006101d6703000061,
    0x01d68a300006101d6a4300013101d6a5300023701d6a6200000001d6a830003b101d6b930003b801d6ba30003c3,
    0x01d6c1300220701d6c230003b101d6d330003c301d6d430003c301d6db300220201d6dc30003b501d6dd30003b8,
    0x01d6de30003ba01d6df30003c601d6e030003c101d6e130003c001d6e230003b101d6f330003b801d6f430003c3,
    0x01d6fb300220701d6fc30003b101d70d30003c301d70e30003c301d715300220201d71630003b501d71730003b8,
    0x01d71830003ba01d71930003c601d71a30003c101d71b30003c001d71c30003b101d72d30003b801d72e30003c3,
    0x01d735300220701d73630003b101d74730003c301d74830003c301d74f300220201d75030003b501d75130003b8,
    0x01d75230003ba01d75330003c601d75430003c101d75530003c001d75630003b101d76730003b801d76830003c3,
    0x01d76f300220701d77030003b101d78130003c301d78230003c301d789300220201d78a30003b501d78b30003b8,
    0x01d78c30003ba01d78d30003c601d78e30003c101d78f30003c001d79030003b101d7a130003b801d7a230003c3,
    0x01d7a9300220701d7aa30003b101d7bb30003c301d7bc30003c301d7c3300220201d7c430003b501d7c530003b8,
    0x01d7c630003ba01d7c730003c601d7c830003c101d7c930003c001d7ca30003dd01d7cb30003dd01d7cc2000000,
    0x01d7ce300003001d7d8300003001d7e2300003001d7ec300003001d7f6300003001d800000000001da8c2000000,
    0x01da9b000000001daa0200000001daa1000000001dab0200000001e000000000001e007200000001e0080000000,
    0x01e019200000001e01b000000001e022200000001e023000000001e025200000001e026000000001e02b2000000,
    0x01e100000000001e12d200000001e130000000001e13e200000001e140000000001e14a200000001e14e0000000,
    0x01e150200000001e2c0000000001e2fa200000001e2ff000000001e300200000001e800000000001e8c52000000,
    0x01e8c7000000001e8d7200000001e900301e92201e922000000001e94c200000001e950000000001e95a2000000,
    0x01e95e000000001e960200000001ec71000000001ecb5200000001ed01000000001ed3e200000001ee003000627,
    0x01ee02300062c01ee03300062f01ee04200000001ee05300064801ee06300063201ee07300062d01ee083000637,
    0x01ee09300064a01ee0a300064301ee0e300063301ee0f300063901ee10300064101ee11300063501ee123000642,
    0x01ee13300063101ee14300063401ee15300062a01ee17300062e01ee18300063001ee19300063601ee1a3000638,
    0x01ee1b300063a01ee1c300066e01ee1d30006ba01ee1e30006a101ee1f300066f01ee20200000001ee213000628,
    0x01ee22300062c01ee23200000001ee24300064701ee25200000001ee27300062d01ee28200000001ee29300064a,
    0x01ee2a300064301ee2e300063301ee2f300063901ee30300064101ee31300063501ee32300064201ee332000000,
    0x01ee34300063401ee35300062a01ee37300062e01ee38200000001ee39300063601ee3a200000001ee3b300063a,
    0x01ee3c200000001ee42300062c01ee43200000001ee47300062d01ee48200000001ee49300064a01ee4a2000000,
    0x01ee4b300064401ee4c200000001ee4d300064601ee4e300063301ee4f300063901ee50200000001ee513000635,
    0x01ee52300064201ee53200000001ee54300063401ee55200000001ee57300062e01ee58200000001ee593000636,
    0x01ee5a200000001ee5b300063a01ee5c200000001ee5d30006ba01ee5e200000001ee5f300066f01ee602000000,
    0x01ee61300062801ee62300062c01ee63200000001ee64300064701ee65200000001ee67300062d01ee683000637,
    0x01ee69300064a01ee6a300064301ee6b200000001ee6c300064501ee6e300063301ee6f300063901ee703000641,
    0x01ee71300063501ee72300064201ee73200000001ee74300063401ee75300062a01ee77300062e01ee782000000,
    0x01ee79300063601ee7a300063801ee7b300063a01ee7c300066e01ee7d200000001ee7e30006a101ee7f2000000,
    0x01ee80300062701ee82300062c01ee83300062f01ee84300064701ee86300063201ee87300062d01ee883000637,
    0x01ee89300064a01ee8a200000001ee8b300064401ee8e300063301ee8f300063901ee90300064101ee913000635,
    0x01ee92300064201ee93300063101ee94300063401ee95300062a01ee97300062e01ee98300063001ee993000636,
    0x01ee9a300063801ee9b300063a01ee9c200000001eea1300062801eea2300062c01eea3300062f01eea42000000,
    0x01eea5300064801eea6300063201eea7300062d01eea8300063701eea9300064a01eeaa200000001eeab3000644,
    0x01eeae300063301eeaf300063901eeb0300064101eeb1300063501eeb2300064201eeb3300063101eeb43000634,
    0x01eeb5300062a01eeb7300062e01eeb8300063001eeb9300063601eeba300063801eebb300063a01eebc2000000,
    0x01eef0000000001eef2200000001f000000000001f02c200000001f030000000001f094200000001f0a00000000,
    0x01f0af200000001f0b1000000001f0c0200000001f0c1000000001f0d0200000001f0d1000000001f0f62000000,
    0x01f101701246201f10270124a201f10370124e201f104701252201f105701256201f10670125a201f10770125e2,
    0x01f108701262201f109701266201f10a70126a201f10b000000001f1107003b8301f1117003be301f1127003c43,
    0x01f1137003ca301f1147003d0301f1157003d6301f1167003dc301f1177003e2301f1187003e8301f1197003ee3,
    0x01f11a7003f4301f11b7003fa301f11c700400301f11d700406301f11e70040c301f11f700412301f1207004183,
    0x01f12170041e301f122700424301f12370042a301f124700430301f125700436301f12670043c301f1277004423,
    0x01f128700448301f12970044e301f12a40126e301f12b300006301f12c300007201f12d4009a0201f12e4012742,
    0x01f12f000000001f130300006101f14a401278201f14b400aca201f14c40127c201f14d400022201f14e4012803,
    0x01f14f401286201f150000000001f16a400a44201f16b4009a4201f16c40128a201f16d000000001f19040128e2,
    0x01f191000000001f1ae200000001f1e6000000001f200401292201f201401296201f20230030b501f2032000000,
    0x01f210300624b01f2113005b5701f21230053cc01f21330030c701f2143004e8c01f215300591a01f21630089e3,
    0x01f217300592901f2183004ea401f219300662001f21a300712101f21b300659901f21c300524d01f21d3005f8c,
    0x01f21e300518d01f21f30065b001f220300521d01f2213007d4201f222300751f01f2233008ca901f22430058f0,
    0x01f225300543901f2263006f1401f227300629501f228300635501f2293004e0001f22a3004e0901f22b300904a,
    0x01f22c3005de601f22d3004e2d01f22e30053f301f22f300630701f2303008d7001f231300625301f2323007981,
    0x01f2333007a7a01f234300540801f2353006e8001f236300670901f237300670801f238300753301f2393005272,
    0x01f23a30055b601f23b300914d01f23c200000001f24040129a301f2414012a0301f2424012a6301f2434012ac3,
    0x01f2444012b2301f2454012b8301f2464012be301f2474012c4301f2484012ca301f249200000001f2503005f97,
    0x01f25130053ef01f252200000001f260000000001f266200000001f300000000001f6d8200000001f6e00000000,
    0x01f6ed200000001f6f0000000001f6fd200000001f700000000001f774200000001f780000000001f7d92000000,
    0x01f7e0000000001f7ec200000001f800000000001f80c200000001f810000000001f848200000001f8500000000,
    0x01f85a200000001f860000000001f888200000001f890000000001f8ae200000001f8b0000000001f8b22000000,
    0x01f900000000001f979200000001f97a000000001f9cc200000001f9cd000000001fa54200000001fa600000000,
    0x01fa6e200000001fa70000000001fa75200000001fa78000000001fa7b200000001fa80000000001fa872000000,
    0x01fa90000000001faa9200000001fab0000000001fab7200000001fac0000000001fac3200000001fad00000000,
    0x01fad7200000001fb00000000001fb93200000001fb94000000001fbcb200000001fbf0300003001fbfa2000000,
    0x020000000000002a6de200000002a700000000002b735200000002b740000000002b81e200000002b8200000000,
    0x02cea2200000002ceb0000000002ebe1200000002f8003004e3d02f8013004e3802f8023004e4102f8033020122,
    0x02f8043004f6002f8053004fae02f8063004fbb02f807300500202f808300507a02f809300509902f80a30050e7,
    0x02f80b30050cf02f80c300349e02f80d302063a02f80e300514d02f80f300515402f810300516402f8113005177,
    0x02f812302051c02f81330034b902f814300516702f815300518d02f816302054b02f817300519702f81830051a4,
    0x02f8193004ecc02f81a30051ac02f81b30051b502f81c30291df02f81d30051f502f81e300520302f81f30034df,
    0x02f820300523b02f821300524602f822300527202f823300527702f824300351502f82530052c702f82630052c9,
    0x02f82730052e402f82830052fa02f829300530502f82b300531702f82c300534902f82d300535102f82e300535a,
    0x02f82f300537302f830300537d02f831300537f02f832300537f02f833300537f02f8343020a2c02f8353007070,
    0x02f83630053ca02f83730053df02f8383020b6302f83930053eb02f83a30053f102f83b300540602f83c300549e,
    0x02f83d300543802f83e300544802f83f300546802f84030054a202f84130054f602f842300551002f8433005553,
    0x02f844300556302f845300558402f846300558402f847300559902f84830055ab02f84930055b302f84a30055c2,
    0x02f84b300571602f84c300560602f84d300571702f84e300565102f84f300567402f850300520702f85130058ee,
    0x02f85230057ce02f85330057f402f854300580d02f855300578b02f856300583202f857300583102f85830058ac,
    0x02f85930214e402f85a30058f202f85b30058f702f85c300590602f85d300591a02f85e300592202f85f3005962,
    0x02f86030216a802f86130216ea02f86230059ec02f8633005a1b02f8643005a2702f86530059d802f8663005a66,
    0x02f86730036ee02f868200000002f8693005b0802f86a3005b3e02f86b3005b3e02f86c30219c802f86d3005bc3,
    0x02f86e3005bd802f86f3005be702f8703005bf302f8713021b1802f8723005bff02f8733005c0602f8742000000,
    0x02f8753005c2202f876300378102f8773005c6002f8783005c6e02f8793005cc002f87a3005c8d02f87b3021de4,
    0x02f87c3005d4302f87d3021de602f87e3005d6e02f87f3005d6b02f8803005d7c02f8813005de102f883300382f,
    0x02f8843005dfd02f8853005e2802f8863005e3d02f8873005e6902f888300386202f889302218302f88a300387c,
    0x02f88b3005eb002f88c3005eb302f88d3005eb602f88e3005eca02f88f302a39202f8903005efe02f8913022331,
    0x02f892302233102f893300820102f8943005f2202f8953005f2202f89630038c702f89730232b802f89830261da,
    0x02f8993005f6202f89a3005f6b02f89b30038e302f89c3005f9a02f89d3005fcd02f89e3005fd702f89f3005ff9,
    0x02f8a0300608102f8a1300393a02f8a2300391c02f8a3300609402f8a430226d402f8a530060c702f8a63006148,
    0x02f8a7300614c02f8a8300614e02f8a9300614c02f8aa300617a02f8ab300618e02f8ac30061b202f8ad30061a4,
    0x02f8ae30061af02f8af30061de02f8b030061f202f8b130061f602f8b2300621002f8b3300621b02f8b4300625d,
    0x02f8b530062b102f8b630062d402f8b7300635002f8b83022b0c02f8b9300633d02f8ba30062fc02f8bb3006368,
    0x02f8bc300638302f8bd30063e402f8be3022bf102f8bf300642202f8c030063c502f8c130063a902f8c23003a2e,
    0x02f8c3300646902f8c4300647e02f8c5300649d02f8c6300647702f8c73003a6c02f8c8300654f02f8c9300656c,
    0x02f8ca302300a02f8cb30065e302f8cc30066f802f8cd300664902f8ce3003b1902f8cf300669102f8d03003b08,
    0x02f8d13003ae402f8d2300519202f8d3300519502f8d4300670002f8d5300669c02f8d630080ad02f8d730043d9,
    0x02f8d8300671702f8d9300671b02f8da300672102f8db300675e02f8dc300675302f8dd30233c302f8de3003b49,
    0x02f8df30067fa02f8e0300678502f8e1300685202f8e2300688502f8e3302346d02f8e4300688e02f8e5300681f,
    0x02f8e6300691402f8e73003b9d02f8e8300694202f8e930069a302f8ea30069ea02f8eb3006aa802f8ec30236a3,
    0x02f8ed3006adb02f8ee3003c1802f8ef3006b2102f8f030238a702f8f13006b5402f8f23003c4e02f8f33006b72,
    0x02f8f43006b9f02f8f53006bba02f8f73023a8d02f8f83021d0b02f8f93023afa02f8fa3006c4e02f8fb3023cbc,
    0x02f8fc3006cbf02f8fd3006ccd02f8fe3006c6702f8ff3006d1602f9003006d3e02f9013006d7702f9023006d41,
    0x02f9033006d6902f9043006d7802f9053006d8502f9063023d1e02f9073006d3402f9083006e2f02f9093006e6e,
    0x02f90a3003d3302f90b3006ecb02f90c3006ec702f90d3023ed102f90e3006df902f90f3006f6e02f9103023f5e,
    0x02f9113023f8e02f9123006fc602f913300703902f914300701e02f915300701b02f9163003d9602f917300704a,
    0x02f918300707d02f919300707702f91a30070ad02f91b302052502f91c300714502f91d302426302f91e300719c,
    0x02f91f200000002f920300722802f921300723502f922300725002f923302460802f924300728002f9253007295,
    0x02f926302473502f927302481402f928300737a02f929300738b02f92a3003eac02f92b30073a502f92c3003eb8,
    0x02f92d3003eb802f92e300744702f92f300745c02f930300747102f931300748502f93230074ca02f9333003f1b,
    0x02f934300752402f9353024c3602f936300753e02f9373024c9202f938300757002f939302219f02f93a3007610,
    0x02f93b3024fa102f93c3024fb802f93d302504402f93e3003ffc02f93f300400802f94030076f402f94130250f3,
    0x02f94230250f202f943302511902f944302513302f945300771e02f947300771f02f948300774a02f9493004039,
    0x02f94a300778b02f94b300404602f94c300409602f94d302541d02f94e300784e02f94f300788c02f95030078cc,
    0x02f95130040e302f952302562602f953300795602f954302569a02f95530256c502f956300798f02f95730079eb,
    0x02f958300412f02f9593007a4002f95a3007a4a02f95b3007a4f02f95c302597c02f95d3025aa702f95e3025aa7,
    0x02f95f200000002f960300420202f9613025bab02f9623007bc602f9633007bc902f964300422702f9653025c80,
    0x02f9663007cd202f96730042a002f9683007ce802f9693007ce302f96a3007d0002f96b3025f8602f96c3007d63,
    0x02f96d300430102f96e3007dc702f96f3007e0202f9703007e4502f971300433402f972302622802f9733026247,
    0x02f974300435902f97530262d902f9763007f7a02f977302633e02f9783007f9502f9793007ffa02f97a3008005,
    0x02f97b30264da02f97c302652302f97d300806002f97e30265a802f97f300807002f980302335f02f98130043d5,
    0x02f98230080b202f983300810302f984300440b02f985300813e02f9863005ab502f98730267a702f98830267b5,
    0x02f989302339302f98a302339c02f98b300820102f98c300820402f98d3008f9e02f98e300446b02f98f3008291,
    0x02f990300828b02f991300829d02f99230052b302f99330082b102f99430082b302f99530082bd02f99630082e6,
    0x02f9973026b3c02f99830082e502f999300831d02f99a300836302f99b30083ad02f99c300832302f99d30083bd,
    0x02f99e30083e702f99f300845702f9a0300835302f9a130083ca02f9a230083cc02f9a330083dc02f9a43026c36,
    0x02f9a53026d6b02f9a63026cd502f9a7300452b02f9a830084f102f9a930084f302f9aa300851602f9ab30273ca,
    0x02f9ac300856402f9ad3026f2c02f9ae300455d02f9af300456102f9b03026fb102f9b130270d202f9b2300456b,
    0x02f9b3300865002f9b4300865c02f9b5300866702f9b6300866902f9b730086a902f9b8300868802f9b9300870e,
    0x02f9ba30086e202f9bb300877902f9bc300872802f9bd300876b02f9be300878602f9bf200000002f9c030087e1,
    0x02f9c1300880102f9c230045f902f9c3300886002f9c4300886302f9c5302766702f9c630088d702f9c730088de,
    0x02f9c8300463502f9c930088fa02f9ca30034bb02f9cb30278ae02f9cc302796602f9cd30046be02f9ce30046c7,
    0x02f9cf3008aa002f9d03008aed02f9d13008b8a02f9d23008c5502f9d33027ca802f9d43008cab02f9d53008cc1,
    0x02f9d63008d1b02f9d73008d7702f9d83027f2f02f9d9302080402f9da3008dcb02f9db3008dbc02f9dc3008df0,
    0x02f9dd30208de02f9de3008ed402f9df3008f3802f9e030285d202f9e130285ed02f9e2300909402f9e330090f1,
    0x02f9e4300911102f9e5302872e02f9e6300911b02f9e7300923802f9e830092d702f9ea300927c02f9eb30093f9,
    0x02f9ec300941502f9ed3028bfa02f9ee300958b02f9ef300499502f9f030095b702f9f13028d7702f9f230049e6,
    0x02f9f330096c302f9f43005db202f9f5300972302f9f6302914502f9f7302921a02f9f83004a6e02f9f93004a76,
    0x02f9fa30097e002f9fb302940a02f9fc3004ab202f9fd302949602f9fe300980b02f9ff300980b02fa003009829,
    0x02fa0130295b602fa0230098e202fa033004b3302fa04300992902fa0530099a702fa0630099c202fa0730099fe,
    0x02fa083004bce02fa093029b3002fa0a3009b1202fa0b3009c4002fa0c3009cfd02fa0d3004cce02fa0e3004ced,
    0x02fa0f3009d6702fa10302a0ce02fa113004cf802fa12302a10502fa13302a20e02fa14302a29102fa153009ebb,
    0x02fa163004d5602fa173009ef902fa183009efe02fa193009f0502fa1a3009f0f02fa1b3009f1602fa1c3009f3b,
    0x02fa1d302a60002fa1e2000000030000000000003134b20000000e010010000000e01f02000000ffffff0000000]⟩

/-- The characters of all replacements that are longer than one character. -/
def mappingSequences : PackedSequence :=
  ⟨6, 15, [
    0x000020000308000020000304000020000301000020000327000031002044000034000031002044000032000033,
    0x00204400003400007300007300006900030700006900006a00006c0000b70002bc00006e00006400017e00006c,
    0x00006a00006e00006a00006400007a00002000030600002000030700002000030a000020000328000020000303,
    0x00002000030b0003080003010000200003b90000200003080003010003c3000565000582000627000674000648,
    0x0006740006c700067400064a00067400091500093c00091600093c00091700093c00091c00093c00092100093c,
    0x00092200093c00092b00093c00092f00093c0009a10009bc0009a20009bc0009af0009bc000a32000a3c000a38,
    0x000a3c000a16000a3c000a17000a3c000a1c000a3c000a2b000a3c000b21000b3c000b22000b3c000e4d000e32,
    0x000ecd000eb2000eab000e99000eab000ea1000f42000fb7000f4c000fb7000f51000fb7000f56000fb7000f5b,
    0x000fb7000f40000fb5000f71000f72000f71000f74000fb2000f80000fb2000f71000f80000fb3000f80000fb3,
    0x000f71000f80000f92000fb7000f9c000fb7000fa1000fb7000fa6000fb7000fab000fb7000f90000fb5000061,
    0x0002be001f000003b9001f010003b9001f020003b9001f030003b9001f040003b9001f050003b9001f060003b9,
    0x001f070003b9001f200003b9001f210003b9001f220003b9001f230003b9001f240003b9001f250003b9001f26,
    0x0003b9001f270003b9001f600003b9001f610003b9001f620003b9001f630003b9001f640003b9001f650003b9,
    0x001f660003b9001f670003b9001f700003b90003b10003b90003ac0003b9001fb60003b9000020000313000020,
    0x000342000020000308000342001f740003b90003b70003b90003ae0003b9001fc60003b9000020000313000300,
    0x000020000313000301000020000313000342000020000314000300000020000314000301000020000314000342,
    0x000020000308000300001f7c0003b90003c90003b90003ce0003b9001ff60003b9000020000333002032002032,
    0x00203200203200203200203500203500203500203500203500002100002100002000030500003f00003f00003f,
    0x00002100002100003f00007200007300006100002f00006300006100002f0000730000b000006300006300002f,
    0x00006f00006300002f0000750000b000006600006e00006f00007300006d00007400006500006c00007400006d,
    0x000066000061000078000031002044000037000031002044000039000031002044000031000030000031002044,
    0x000033000032002044000033000031002044000035000032002044000035000033002044000035000034002044,
    0x000035000031002044000036000035002044000036000031002044000038000033002044000038000035002044,
    0x000038000037002044000038000069000069000069000069000069000069000076000076000069000076000069,
    0x000069000076000069000069000069000069000078000078000069000078000069000069000030002044000033,
    0x00222b00222b00222b00222b00222b00222e00222e00222e00222e00222e000031000031000031000032000031,
    0x000033000031000034000031000035000031000036000031000037000031000038000031000039000032000030,
    0x000028000031000029000028000032000029000028000033000029000028000034000029000028000035000029,
    0x000028000036000029000028000037000029000028000038000029000028000039000029000028000031000030,
    0x000029000028000031000031000029000028000031000032000029000028000031000033000029000028000031,
    0x000034000029000028000031000035000029000028000031000036000029000028000031000037000029000028,
    0x000031000038000029000028000031000039000029000028000032000030000029000028000061000029000028,
    0x000062000029000028000063000029000028000064000029000028000065000029000028000066000029000028,
    0x00006700002900002800006800002900002800006900002900002800006a00002900002800006b000029000028,
    0x00006c00002900002800006d00002900002800006e00002900002800006f000029000028000070000029000028,
    0x000071000029000028000072000029000028000073000029000028000074000029000028000075000029000028,
    0x00007600002900002800007700002900002800007800002900002800007900002900002800007a00002900003a,
    0x00003a00003d00003d00003d002add00033800002000309900002000309a00308800308a0030b30030c8000028,
    0x001100000029000028001102000029000028001103000029000028001105000029000028001106000029000028,
    0x00110700002900002800110900002900002800110b00002900002800110c00002900002800110e000029000028,
    0x00110f00002900002800111000002900002800111100002900002800111200002900002800ac00000029000028,
    0x00b09800002900002800b2e400002900002800b77c00002900002800b9c800002900002800bc14000029000028,
    0x00c0ac00002900002800c54400002900002800c79000002900002800cc2800002900002800ce74000029000028,
    0x00d0c000002900002800d30c00002900002800d55800002900002800c8fc00002900002800c62400c804000029,
    0x00002800c62400d6c4000029000028004e00000029000028004e8c000029000028004e090000290000280056db,
    0x000029000028004e9400002900002800516d000029000028004e0300002900002800516b000029000028004e5d,
    0x00002900002800534100002900002800670800002900002800706b000029000028006c34000029000028006728,
    0x0000290000280091d100002900002800571f0000290000280065e500002900002800682a000029000028006709,
    0x00002900002800793e00002900002800540d000029000028007279000029000028008ca100002900002800795d,
    0x0000290000280052b4000029000028004ee300002900002800547c000029000028005b660000290000280076e3,
    0x000029000028004f01000029000028008cc700002900002800535400002900002800796d000029000028004f11,
    0x0000290000280081ea0000290000280081f3000029000070000074000065000032000032000032000034000032,
    0x000035000032000036000032000037000032000038000032000039000033000030000033000033000033000034,
    0x00003300003500cc3800ace000c8fc00c758000033000036000033000037000033000038000033000039000034,
    0x000030000034000034000034000035000034000036000034000037000034000038000034000039000035000030,
    0x000031006708000032006708000033006708000034006708000035006708000036006708000037006708000038,
    0x006708000039006708000031000030006708000031000031006708000031000032006708000068000067000065,
    0x00007200006700006500007600006c000074000064004ee400548c0030a20030d10030fc0030c80030a20030eb,
    0x0030d50030a10030a20030f30030da0030a20030a20030fc0030eb0030a40030cb0030f30030b00030a40030f3,
    0x0030c10030a60030a90030f30030a80030b90030af0030fc0030c90030a80030fc0030ab0030fc0030aa0030f3,
    0x0030b90030aa0030fc0030e00030ab0030a40030ea0030ab0030e90030c30030c80030ab0030ed0030ea0030fc,
    0x0030ac0030ed0030f30030ac0030f30030de0030ae0030ac0030ae0030cb0030fc0030ad0030e50030ea0030fc,
    0x0030ae0030eb0030c00030fc0030ad0030ed0030ad0030ed0030b00030e90030e00030ad0030ed0030e10030fc,
    0x0030c80030eb0030ad0030ed0030ef0030c30030c80030b00030e90030e00030c80030f30030af0030eb0030bc,
    0x0030a40030ed0030af0030ed0030fc0030cd0030b10030fc0030b90030b30030eb0030ca0030b30030fc0030dd,
    0x0030b50030a40030af0030eb0030b50030f30030c10030fc0030e00030b70030ea0030f30030b00030bb0030f3,
    0x0030c10030bb0030f30030c80030c00030fc0030b90030c70030b70030c90030eb0030ca0030ce0030ce0030c3,
    0x0030c80030cf0030a40030c40030d10030fc0030bb0030f30030c80030d10030fc0030c40030d00030fc0030ec,
    0x0030eb0030d40030a20030b90030c80030eb0030d40030af0030eb0030d40030b30030d30030eb0030d50030a1,
    0x0030e90030c30030c90030d50030a30030fc0030c80030d60030c30030b70030a70030eb0030d50030e90030f3,
    0x0030d80030af0030bf0030fc0030eb0030da0030bd0030da0030cb0030d20030d80030eb0030c40030da0030f3,
    0x0030b90030da0030fc0030b80030d90030fc0030bf0030dd0030a40030f30030c80030dc0030eb0030c80030db,
    0x0030f30030dd0030f30030c90030db0030fc0030eb0030db0030fc0030f30030de0030a40030af0030ed0030de,
    0x0030a40030eb0030de0030c30030cf0030de0030eb0030af0030de0030f30030b70030e70030f30030df0030af,
    0x0030ed0030f30030df0030ea0030df0030ea0030d00030fc0030eb0030e10030ac0030e10030ac0030c80030f3,
    0x0030e40030fc0030c90030e40030fc0030eb0030e60030a20030f30030ea0030c30030c80030eb0030ea0030e9,
    0x0030eb0030d40030fc0030eb0030fc0030d60030eb0030ec0030e00030ec0030f30030c80030b20030f3000030,
    0x0070b90000310070b90000320070b90000330070b90000340070b90000350070b90000360070b90000370070b9,
    0x0000380070b90000390070b90000310000300070b90000310000310070b90000310000320070b9000031000033,
    0x0070b90000310000340070b90000310000350070b90000310000360070b90000310000370070b9000031000038,
    0x0070b90000310000390070b90000320000300070b90000320000310070b90000320000320070b9000032000033,
    0x0070b90000320000340070b900006800007000006100006400006100006100007500006200006100007200006f,
    0x00007600007000006300006400006d00006400006d00003200006400006d000033000069000075005e73006210,
    0x00662d00548c005927006b6300660e006cbb00682a005f0f004f1a00793e00006e0000610003bc00006100006d,
    0x00006100006b00006100006b00006200006d00006200006700006200006300006100006c00006b000063000061,
    0x00006c00007000006600006e0000660003bc0000660003bc00006700006d00006700006b00006700006800007a,
    0x00006b00006800007a00006d00006800007a00007400006800007a0003bc00006c00006d00006c00006400006c,
    0x00006b00006c00006600006d00006e00006d0003bc00006d00006d00006d00006300006d00006b00006d00006d,
    0x00006d00003200006300006d00003200006b00006d00003200006d00006d00003300006300006d00003300006b,
    0x00006d00003300006d00221500007300006d00221500007300003200006b00007000006100006d000070000061,
    0x000067000070000061000072000061000064000072000061000064002215000073000072000061000064002215,
    0x00007300003200007000007300006e0000730003bc00007300006d00007300007000007600006e0000760003bc,
    0x00007600006d00007600006b00007600007000007700006e0000770003bc00007700006d00007700006b000077,
    0x00006b0003c900006d0003c900006200007100006300221500006b000067000064000062000067000079000068,
    0x00006100006900006e00006b00006b00006b00007400006c00006e00006c00006f00006700006c00007800006d,
    0x00006900006c00006d00006f00006c00007000006800007000007000006d000070000072000073000076000077,
    0x00006200007600221500006d00006100221500006d0000310065e50000320065e50000330065e50000340065e5,
    0x0000350065e50000360065e50000370065e50000380065e50000390065e50000310000300065e5000031000031,
    0x0065e50000310000320065e50000310000330065e50000310000340065e50000310000350065e5000031000036,
    0x0065e50000310000370065e50000310000380065e50000310000390065e50000320000300065e5000032000031,
    0x0065e50000320000320065e50000320000330065e50000320000340065e50000320000350065e5000032000036,
    0x0065e50000320000370065e50000320000380065e50000320000390065e50000330000300065e5000033000031,
    0x0065e500006700006100006c00006600006600006600006900006600006c00006600006600006c000073000074,
    0x00057400057600057400056500057400056b00057e00057600057400056d0005d90005b40005f20005b70005e9,
    0x0005c10005e90005c20005e90005bc0005c10005e90005bc0005c20005d00005b70005d00005b80005d00005bc,
    0x0005d10005bc0005d20005bc0005d30005bc0005d40005bc0005d50005bc0005d60005bc0005d80005bc0005d9,
    0x0005bc0005da0005bc0005db0005bc0005dc0005bc0005de0005bc0005e00005bc0005e10005bc0005e30005bc,
    0x0005e40005bc0005e60005bc0005e70005bc0005e80005bc0005ea0005bc0005d50005b90005d10005bf0005db,
    0x0005bf0005e40005bf0005d00005dc0006260006270006260006d50006260006480006260006c70006260006c6,
    0x0006260006c80006260006d000062600064900062600062c00062600062d00062600064500062600064a000628,
    0x00062c00062800062d00062800062e00062800064500062800064900062800064a00062a00062c00062a00062d,
    0x00062a00062e00062a00064500062a00064900062a00064a00062b00062c00062b00064500062b00064900062b,
    0x00064a00062c00062d00062c00064500062d00064500062e00062c00062e00062d00062e00064500063300062c,
    0x00063300062d00063300062e00063300064500063500062d00063500064500063600062c00063600062d000636,
    0x00062e00063600064500063700062d00063700064500063800064500063900062c00063900064500063a00062c,
    0x00063a00064500064100062c00064100062d00064100062e00064100064500064100064900064100064a000642,
    0x00062d00064200064500064200064900064200064a00064300062700064300062c00064300062d00064300062e,
    0x00064300064400064300064500064300064900064300064a00064400062c00064400062d00064400062e000644,
    0x00064500064400064900064400064a00064500062c00064500064500064500064900064500064a00064600062c,
    0x00064600062d00064600062e00064600064500064600064900064600064a00064700062c000647000645000647,
    0x00064900064700064a00064a00062d00064a00062e00064a000649000630000670000631000670000649000670,
    0x00002000064c00065100002000064d00065100002000064e00065100002000064f000651000020000650000651,
    0x000020000651000670000626000631000626000632000626000646000628000631000628000632000628000646,
    0x00062a00063100062a00063200062a00064600062b00063100062b00063200062b000646000645000627000646,
    0x00063100064600063200064600064600064a00063100064a00063200062600062e000626000647000628000647,
    0x00062a00064700063500062e00064400064700064600064700064700067000062b000647000633000647000634,
    0x00064500063400064700064000064e00065100064000064f000651000640000650000651000637000649000637,
    0x00064a00063900064900063900064a00063a00064900063a00064a00063300064900063300064a000634000649,
    0x00063400064a00062d00064900062c00064900062c00064a00062e00064900063500064900063500064a000636,
    0x00064900063600064a00063400062c00063400062d00063400062e000634000631000633000631000635000631,
    0x00063600063100062700064b00062a00062c00064500062a00062d00062c00062a00062d00064500062a00062e,
    0x00064500062a00064500062c00062a00064500062d00062a00064500062e00062d00064500064a00062d000645,
    0x00064900063300062d00062c00063300062c00062d00063300062c00064900063300064500062d000633000645,
    0x00062c00063300064500064500063500062d00062d00063500064500064500063400062d00064500063400062c,
    0x00064a00063400064500062e00063400064500064500063600062d00064900063600062e000645000637000645,
    0x00062d00063700064500064500063700064500064a00063900062c000645000639000645000645000639000645,
    0x00064900063a00064500064500063a00064500064a00063a00064500064900064100062e000645000642000645,
    0x00062d00064200064500064500064400062d00064500064400062d00064a00064400062d00064900064400062c,
    0x00062c00064400062e00064500064400064500062d00064500062d00062c00064500062d00064a00064500062c,
    0x00062d00064500062e00064500064500062c00062e00064700064500062c00064700064500064500064600062d,
    0x00064500064600062d00064900064600062c00064500064600062c00064900064600064500064a000646000645,
    0x00064900064a00064500064500062800062e00064a00062a00062c00064a00062a00062c00064900062a00062e,
    0x00064a00062a00062e00064900062a00064500064a00062a00064500064900062c00064500064a00062c00062d,
    0x00064900062c00064500064900063300062e00064900063500062d00064a00063400062d00064a00063600062d,
    0x00064a00064400062c00064a00064400064500064a00064a00062c00064a00064a00064500064a000645000645,
    0x00064a00064200064500064a00064600062d00064a00063900064500064a00064300064500064a00064600062c,
    0x00062d00064500062e00064a00064400062c00064500064300064500064500062c00062d00064a00062d00062c,
    0x00064a00064500062c00064a00064100064500064a00062800062d00064a00063300062e00064a00064600062c,
    0x00064a0006350006440006d20006420006440006d2000627000644000644000647000627000643000628000631,
    0x00064500062d00064500062f00063500064400063900064500063100063300064800064400063900064400064a,
    0x000647000648000633000644000645000635000644000649000635000644000649000020000627000644000644,
    0x00064700002000063900064400064a00064700002000064800063300064400064500062c00064400002000062c,
    0x0006440006270006440006470006310006cc00062700064400002000064b00064000064b000640000651000020,
    0x00065200064000065200064400062200064400062300064400062501d15701d16501d15801d16501d15801d165,
    0x01d16e01d15801d16501d16f01d15801d16501d17001d15801d16501d17101d15801d16501d17201d1b901d165,
    0x01d1ba01d16501d1b901d16501d16e01d1ba01d16501d16e01d1b901d16501d16f01d1ba01d16501d16f000030,
    0x00002c00003100002c00003200002c00003300002c00003400002c00003500002c00003600002c00003700002c,
    0x00003800002c00003900002c00301400007300301500007700007a000068000076000073000064000070000070,
    0x00007600007700006300006d00007200006400006a00307b00304b0030b30030b300301400672c003015003014,
    0x004e09003015003014004e8c003015003014005b890030150030140070b9003015003014006253003015003014,
    0x0076d70030150030140052dd003015003014006557003015000000000000000000000000000000000000000000]⟩

end MultiSigner.Idna
