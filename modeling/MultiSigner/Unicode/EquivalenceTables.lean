import MultiSigner.Unicode.PackedTable
/-!
# Tables of canonical equivalence

Combining classes, the characters that fall apart into one or two others, and the pairs that are
put together.  Hangul syllables are not listed, they are computed.
-/

namespace MultiSigner.Unicode

/-- The canonical combining class that holds from a character on. -/
def combiningClassTable : PackedTable :=
  ⟨6, 2, 11, [
    0x000300e6000315e8000316dc00031ae800031bd800031cdc000321ca000323dc000327ca000329dc00033401,
    0x000339dc00033de6000345f0000346e6000347dc00034ae600034ddc00034f00000350e6000353dc000357e6,
    0x000358e8000359dc00035be600035ce900035dea00035fe9000360ea000362e9000363e600037000000483e6,
    0x00048800000591dc000592e6000596dc000597e600059ade00059bdc00059ce60005a2dc0005a8e60005aadc,
    0x0005abe60005adde0005aee40005afe60005b00a0005b10b0005b20c0005b30d0005b40e0005b50f0005b610,
    0x0005b7110005b8120005b9130005bb140005bc150005bd160005be000005bf170005c0000005c1180005c219,
    0x0005c3000005c4e60005c5dc0005c6000005c7120005c800000610e60006181e0006191f00061a2000061b00,
    0x00064b1b00064c1c00064d1d00064e1e00064f1f000650200006512100065222000653e6000655dc000657e6,
    0x00065cdc00065de600065fdc0006600000067023000671000006d6e60006dd000006dfe60006e3dc0006e4e6,
    0x0006e5000006e7e60006e9000006eadc0006ebe60006eddc0006ee000007112400071200000730e6000731dc,
    0x000732e6000734dc000735e6000737dc00073ae600073bdc00073de600073edc00073fe6000742dc000743e6,
    0x000744dc000745e6000746dc000747e6000748dc000749e600074b000007ebe60007f2dc0007f3e60007f400,
    0x0007fddc0007fe00000816e600081a0000081be600082400000825e600082800000829e600082e00000859dc,
    0x00085c000008d3dc0008d4e60008e2000008e3dc0008e4e60008e6dc0008e7e60008e9dc0008eae60008eddc,
    0x0008f01b0008f11c0008f21d0008f3e60008f6dc0008f7e60008f9dc0008fbe60009000000093c0700093d00,
    0x00094d0900094e00000951e6000952dc000953e6000955000009bc070009bd000009cd090009ce000009fee6,
    0x0009ff00000a3c07000a3d00000a4d09000a4e00000abc07000abd00000acd09000ace00000b3c07000b3d00,
    0x000b4d09000b4e00000bcd09000bce00000c4d09000c4e00000c5554000c565b000c5700000cbc07000cbd00,
    0x000ccd09000cce00000d3b09000d3d00000d4d09000d4e00000dca09000dcb00000e3867000e3a09000e3b00,
    0x000e486b000e4c00000eb876000eba09000ebb00000ec87a000ecc00000f18dc000f1a00000f35dc000f3600,
    0x000f37dc000f3800000f39d8000f3a00000f7181000f7282000f7300000f7484000f7500000f7a82000f7e00,
    0x000f8082000f8100000f82e6000f8409000f8500000f86e6000f8800000fc6dc000fc7000010370700103800,
    0x0010390900103b0000108ddc00108e0000135de600136000001714090017150000173409001735000017d209,
    0x0017d3000017dde60017de000018a9e40018aa00001939de00193ae600193bdc00193c00001a17e6001a18dc,
    0x001a1900001a6009001a6100001a75e6001a7d00001a7fdc001a8000001ab0e6001ab5dc001abbe6001abddc,
    0x001abe00001abfdc001ac100001b3407001b3500001b4409001b4500001b6be6001b6cdc001b6de6001b7400,
    0x001baa09001bac00001be607001be700001bf209001bf400001c3707001c3800001cd0e6001cd300001cd401,
    0x001cd5dc001cdae6001cdcdc001ce0e6001ce100001ce201001ce900001ceddc001cee00001cf4e6001cf500,
    0x001cf8e6001cfa00001dc0e6001dc2dc001dc3e6001dcadc001dcbe6001dcdea001dced6001dcfdc001dd0ca,
    0x001dd1e6001df6e8001df7e4001df9dc001dfa00001dfbe6001dfce9001dfddc001dfee6001dffdc001e0000,
    0x0020d0e60020d2010020d4e60020d8010020dbe60020dd000020e1e60020e2000020e5010020e7e60020e8dc,
    0x0020e9e60020ea010020ecdc0020f0e60020f100002cefe6002cf200002d7f09002d8000002de0e6002e0000,
    0x00302ada00302be400302ce800302dde00302ee0003030000030990800309b0000a66fe600a6700000a674e6,
    0x00a67e0000a69ee600a6a00000a6f0e600a6f20000a8060900a8070000a82c0900a82d0000a8c40900a8c500,
    0x00a8e0e600a8f20000a92bdc00a92e0000a9530900a9540000a9b30700a9b40000a9c00900a9c10000aab0e6,
    0x00aab10000aab2e600aab4dc00aab50000aab7e600aab90000aabee600aac00000aac1e600aac20000aaf609,
    0x00aaf70000abed0900abee0000fb1e1a00fb1f0000fe20e600fe27dc00fe2ee600fe30000101fddc0101fe00,
    0x0102e0dc0102e100010376e601037b00010a0ddc010a0e00010a0fe6010a1000010a38e6010a3901010a3adc,
    0x010a3b00010a3f09010a4000010ae5e6010ae6dc010ae700010d24e6010d2800010eabe6010ead00010f46dc,
    0x010f48e6010f4bdc010f4ce6010f4ddc010f5100011046090110470001107f09011080000110b9090110ba07,
    0x0110bb00011100e601110300011133090111350001117307011174000111c0090111c1000111ca070111cb00,
    0x0112350901123607011237000112e9070112ea090112eb0001133b0701133d0001134d0901134e00011366e6,
    0x01136d00011370e6011375000114420901144300011446070114470001145ee601145f000114c2090114c307,
    0x0114c4000115bf090115c0070115c10001163f09011640000116b6090116b7070116b80001172b0901172c00,
    0x0118390901183a0701183b0001193d0901193f0001194307011944000119e0090119e100011a3409011a3500,
    0x011a4709011a4800011a9909011a9a00011c3f09011c4000011d4207011d4300011d4409011d4600011d9709,
    0x011d9800016af001016af500016b30e6016b3700016ff006016ff20001bc9e0101bc9f0001d165d801d16701,
    0x01d16a0001d16de201d16ed801d1730001d17bdc01d1830001d185e601d18adc01d18c0001d1aae601d1ae00,
    0x01d242e601d2450001e000e601e0070001e008e601e0190001e01be601e0220001e023e601e0250001e026e6,
    0x01e02b0001e130e601e1370001e2ece601e2f00001e8d0dc01e8d70001e944e601e94a0701e94b00ffffff00]⟩

/-- A character, and the two that it falls apart into; the second one is zero if there is just
one. -/
def decompositionTable : PackedTable :=
  ⟨6, 12, 5, [
    0x0000c00000410003000000c10000410003010000c20000410003020000c30000410003030000c4000041000308,
    0x0000c500004100030a0000c70000430003270000c80000450003000000c90000450003010000ca000045000302,
    0x0000cb0000450003080000cc0000490003000000cd0000490003010000ce0000490003020000cf000049000308,
    0x0000d100004e0003030000d200004f0003000000d300004f0003010000d400004f0003020000d500004f000303,
    0x0000d600004f0003080000d90000550003000000da0000550003010000db0000550003020000dc000055000308,
    0x0000dd0000590003010000e00000610003000000e10000610003010000e20000610003020000e3000061000303,
    0x0000e40000610003080000e500006100030a0000e70000630003270000e80000650003000000e9000065000301,
    0x0000ea0000650003020000eb0000650003080000ec0000690003000000ed0000690003010000ee000069000302,
    0x0000ef0000690003080000f100006e0003030000f200006f0003000000f300006f0003010000f400006f000302,
    0x0000f500006f0003030000f600006f0003080000f90000750003000000fa0000750003010000fb000075000302,
    0x0000fc0000750003080000fd0000790003010000ff000079000308000100000041000304000101000061000304,
    0x000102000041000306000103000061000306000104000041000328000105000061000328000106000043000301,
    0x00010700006300030100010800004300030200010900006300030200010a00004300030700010b000063000307,
    0x00010c00004300030c00010d00006300030c00010e00004400030c00010f00006400030c000112000045000304,
    0x000113000065000304000114000045000306000115000065000306000116000045000307000117000065000307,
    0x00011800004500032800011900006500032800011a00004500030c00011b00006500030c00011c000047000302,
    0x00011d00006700030200011e00004700030600011f000067000306000120000047000307000121000067000307,
    0x000122000047000327000123000067000327000124000048000302000125000068000302000128000049000303,
    0x00012900006900030300012a00004900030400012b00006900030400012c00004900030600012d000069000306,
    0x00012e00004900032800012f00006900032800013000004900030700013400004a00030200013500006a000302,
    0x00013600004b00032700013700006b00032700013900004c00030100013a00006c00030100013b00004c000327,
    0x00013c00006c00032700013d00004c00030c00013e00006c00030c00014300004e00030100014400006e000301,
    0x00014500004e00032700014600006e00032700014700004e00030c00014800006e00030c00014c00004f000304,
    0x00014d00006f00030400014e00004f00030600014f00006f00030600015000004f00030b00015100006f00030b,
    0x00015400005200030100015500007200030100015600005200032700015700007200032700015800005200030c,
    0x00015900007200030c00015a00005300030100015b00007300030100015c00005300030200015d000073000302,
    0x00015e00005300032700015f00007300032700016000005300030c00016100007300030c000162000054000327,
    0x00016300007400032700016400005400030c00016500007400030c000168000055000303000169000075000303,
    0x00016a00005500030400016b00007500030400016c00005500030600016d00007500030600016e00005500030a,
    0x00016f00007500030a00017000005500030b00017100007500030b000172000055000328000173000075000328,
    0x000174000057000302000175000077000302000176000059000302000177000079000302000178000059000308,
    0x00017900005a00030100017a00007a00030100017b00005a00030700017c00007a00030700017d00005a00030c,
    0x00017e00007a00030c0001a000004f00031b0001a100006f00031b0001af00005500031b0001b000007500031b,
    0x0001cd00004100030c0001ce00006100030c0001cf00004900030c0001d000006900030c0001d100004f00030c,
    0x0001d200006f00030c0001d300005500030c0001d400007500030c0001d50000dc0003040001d60000fc000304,
    0x0001d70000dc0003010001d80000fc0003010001d90000dc00030c0001da0000fc00030c0001db0000dc000300,
    0x0001dc0000fc0003000001de0000c40003040001df0000e40003040001e00002260003040001e1000227000304,
    0x0001e20000c60003040001e30000e60003040001e600004700030c0001e700006700030c0001e800004b00030c,
    0x0001e900006b00030c0001ea00004f0003280001eb00006f0003280001ec0001ea0003040001ed0001eb000304,
    0x0001ee0001b700030c0001ef00029200030c0001f000006a00030c0001f40000470003010001f5000067000301,
    0x0001f800004e0003000001f900006e0003000001fa0000c50003010001fb0000e50003010001fc0000c6000301,
    0x0001fd0000e60003010001fe0000d80003010001ff0000f800030100020000004100030f00020100006100030f,
    0x00020200004100031100020300006100031100020400004500030f00020500006500030f000206000045000311,
    0x00020700006500031100020800004900030f00020900006900030f00020a00004900031100020b000069000311,
    0x00020c00004f00030f00020d00006f00030f00020e00004f00031100020f00006f00031100021000005200030f,
    0x00021100007200030f00021200005200031100021300007200031100021400005500030f00021500007500030f,
    0x00021600005500031100021700007500031100021800005300032600021900007300032600021a000054000326,
    0x00021b00007400032600021e00004800030c00021f00006800030c000226000041000307000227000061000307,
    0x00022800004500032700022900006500032700022a0000d600030400022b0000f600030400022c0000d5000304,
    0x00022d0000f500030400022e00004f00030700022f00006f00030700023000022e00030400023100022f000304,
    0x000232000059000304000233000079000304000340000300000000000341000301000000000343000313000000,
    0x0003440003080003010003740002b900000000037e00003b0000000003850000a8000301000386000391000301,
    0x0003870000b700000000038800039500030100038900039700030100038a00039900030100038c00039f000301,
    0x00038e0003a500030100038f0003a90003010003900003ca0003010003aa0003990003080003ab0003a5000308,
    0x0003ac0003b10003010003ad0003b50003010003ae0003b70003010003af0003b90003010003b00003cb000301,
    0x0003ca0003b90003080003cb0003c50003080003cc0003bf0003010003cd0003c50003010003ce0003c9000301,
    0x0003d30003d20003010003d40003d2000308000400000415000300000401000415000308000403000413000301,
    0x00040700040600030800040c00041a00030100040d00041800030000040e000423000306000419000418000306,
    0x000439000438000306000450000435000300000451000435000308000453000433000301000457000456000308,
    0x00045c00043a00030100045d00043800030000045e00044300030600047600047400030f00047700047500030f,
    0x0004c10004160003060004c20004360003060004d00004100003060004d10004300003060004d2000410000308,
    0x0004d30004300003080004d60004150003060004d70004350003060004da0004d80003080004db0004d9000308,
    0x0004dc0004160003080004dd0004360003080004de0004170003080004df0004370003080004e2000418000304,
    0x0004e30004380003040004e40004180003080004e50004380003080004e600041e0003080004e700043e000308,
    0x0004ea0004e80003080004eb0004e90003080004ec00042d0003080004ed00044d0003080004ee000423000304,
    0x0004ef0004430003040004f00004230003080004f10004430003080004f200042300030b0004f300044300030b,
    0x0004f40004270003080004f50004470003080004f800042b0003080004f900044b000308000622000627000653,
    0x00062300062700065400062400064800065400062500062700065500062600064a0006540006c00006d5000654,
    0x0006c20006c10006540006d30006d200065400092900092800093c00093100093000093c00093400093300093c,
    0x00095800091500093c00095900091600093c00095a00091700093c00095b00091c00093c00095c00092100093c,
    0x00095d00092200093c00095e00092b00093c00095f00092f00093c0009cb0009c70009be0009cc0009c70009d7,
    0x0009dc0009a10009bc0009dd0009a20009bc0009df0009af0009bc000a33000a32000a3c000a36000a38000a3c,
    0x000a59000a16000a3c000a5a000a17000a3c000a5b000a1c000a3c000a5e000a2b000a3c000b48000b47000b56,
    0x000b4b000b47000b3e000b4c000b47000b57000b5c000b21000b3c000b5d000b22000b3c000b94000b92000bd7,
    0x000bca000bc6000bbe000bcb000bc7000bbe000bcc000bc6000bd7000c48000c46000c56000cc0000cbf000cd5,
    0x000cc7000cc6000cd5000cc8000cc6000cd6000cca000cc6000cc2000ccb000cca000cd5000d4a000d46000d3e,
    0x000d4b000d47000d3e000d4c000d46000d57000dda000dd9000dca000ddc000dd9000dcf000ddd000ddc000dca,
    0x000dde000dd9000ddf000f43000f42000fb7000f4d000f4c000fb7000f52000f51000fb7000f57000f56000fb7,
    0x000f5c000f5b000fb7000f69000f40000fb5000f73000f71000f72000f75000f71000f74000f76000fb2000f80,
    0x000f78000fb3000f80000f81000f71000f80000f93000f92000fb7000f9d000f9c000fb7000fa2000fa1000fb7,
    0x000fa7000fa6000fb7000fac000fab000fb7000fb9000f90000fb500102600102500102e001b06001b05001b35,
    0x001b08001b07001b35001b0a001b09001b35001b0c001b0b001b35001b0e001b0d001b35001b12001b11001b35,
    0x001b3b001b3a001b35001b3d001b3c001b35001b40001b3e001b35001b41001b3f001b35001b43001b42001b35,
    0x001e00000041000325001e01000061000325001e02000042000307001e03000062000307001e04000042000323,
    0x001e05000062000323001e06000042000331001e07000062000331001e080000c7000301001e090000e7000301,
    0x001e0a000044000307001e0b000064000307001e0c000044000323001e0d000064000323001e0e000044000331,
    0x001e0f000064000331001e10000044000327001e11000064000327001e1200004400032d001e1300006400032d,
    0x001e14000112000300001e15000113000300001e16000112000301001e17000113000301001e1800004500032d,
    0x001e1900006500032d001e1a000045000330001e1b000065000330001e1c000228000306001e1d000229000306,
    0x001e1e000046000307001e1f000066000307001e20000047000304001e21000067000304001e22000048000307,
    0x001e23000068000307001e24000048000323001e25000068000323001e26000048000308001e27000068000308,
    0x001e28000048000327001e29000068000327001e2a00004800032e001e2b00006800032e001e2c000049000330,
    0x001e2d000069000330001e2e0000cf000301001e2f0000ef000301001e3000004b000301001e3100006b000301,
    0x001e3200004b000323001e3300006b000323001e3400004b000331001e3500006b000331001e3600004c000323,
    0x001e3700006c000323001e38001e36000304001e39001e37000304001e3a00004c000331001e3b00006c000331,
    0x001e3c00004c00032d001e3d00006c00032d001e3e00004d000301001e3f00006d000301001e4000004d000307,
    0x001e4100006d000307001e4200004d000323001e4300006d000323001e4400004e000307001e4500006e000307,
    0x001e4600004e000323001e4700006e000323001e4800004e000331001e4900006e000331001e4a00004e00032d,
    0x001e4b00006e00032d001e4c0000d5000301001e4d0000f5000301001e4e0000d5000308001e4f0000f5000308,
    0x001e5000014c000300001e5100014d000300001e5200014c000301001e5300014d000301001e54000050000301,
    0x001e55000070000301001e56000050000307001e57000070000307001e58000052000307001e59000072000307,
    0x001e5a000052000323001e5b000072000323001e5c001e5a000304001e5d001e5b000304001e5e000052000331,
    0x001e5f000072000331001e60000053000307001e61000073000307001e62000053000323001e63000073000323,
    0x001e6400015a000307001e6500015b000307001e66000160000307001e67000161000307001e68001e62000307,
    0x001e69001e63000307001e6a000054000307001e6b000074000307001e6c000054000323001e6d000074000323,
    0x001e6e000054000331001e6f000074000331001e7000005400032d001e7100007400032d001e72000055000324,
    0x001e73000075000324001e74000055000330001e75000075000330001e7600005500032d001e7700007500032d,
    0x001e78000168000301001e79000169000301001e7a00016a000308001e7b00016b000308001e7c000056000303,
    0x001e7d000076000303001e7e000056000323001e7f000076000323001e80000057000300001e81000077000300,
    0x001e82000057000301001e83000077000301001e84000057000308001e85000077000308001e86000057000307,
    0x001e87000077000307001e88000057000323001e89000077000323001e8a000058000307001e8b000078000307,
    0x001e8c000058000308001e8d000078000308001e8e000059000307001e8f000079000307001e9000005a000302,
    0x001e9100007a000302001e9200005a000323001e9300007a000323001e9400005a000331001e9500007a000331,
    0x001e96000068000331001e97000074000308001e9800007700030a001e9900007900030a001e9b00017f000307,
    0x001ea0000041000323001ea1000061000323001ea2000041000309001ea3000061000309001ea40000c2000301,
    0x001ea50000e2000301001ea60000c2000300001ea70000e2000300001ea80000c2000309001ea90000e2000309,
    0x001eaa0000c2000303001eab0000e2000303001eac001ea0000302001ead001ea1000302001eae000102000301,
    0x001eaf000103000301001eb0000102000300001eb1000103000300001eb2000102000309001eb3000103000309,
    0x001eb4000102000303001eb5000103000303001eb6001ea0000306001eb7001ea1000306001eb8000045000323,
    0x001eb9000065000323001eba000045000309001ebb000065000309001ebc000045000303001ebd000065000303,
    0x001ebe0000ca000301001ebf0000ea000301001ec00000ca000300001ec10000ea000300001ec20000ca000309,
    0x001ec30000ea000309001ec40000ca000303001ec50000ea000303001ec6001eb8000302001ec7001eb9000302,
    0x001ec8000049000309001ec9000069000309001eca000049000323001ecb000069000323001ecc00004f000323,
    0x001ecd00006f000323001ece00004f000309001ecf00006f000309001ed00000d4000301001ed10000f4000301,
    0x001ed20000d4000300001ed30000f4000300001ed40000d4000309001ed50000f4000309001ed60000d4000303,
    0x001ed70000f4000303001ed8001ecc000302001ed9001ecd000302001eda0001a0000301001edb0001a1000301,
    0x001edc0001a0000300001edd0001a1000300001ede0001a0000309001edf0001a1000309001ee00001a0000303,
    0x001ee10001a1000303001ee20001a0000323001ee30001a1000323001ee4000055000323001ee5000075000323,
    0x001ee6000055000309001ee7000075000309001ee80001af000301001ee90001b0000301001eea0001af000300,
    0x001eeb0001b0000300001eec0001af000309001eed0001b0000309001eee0001af000303001eef0001b0000303,
    0x001ef00001af000323001ef10001b0000323001ef2000059000300001ef3000079000300001ef4000059000323,
    0x001ef5000079000323001ef6000059000309001ef7000079000309001ef8000059000303001ef9000079000303,
    0x001f000003b1000313001f010003b1000314001f02001f00000300001f03001f01000300001f04001f00000301,
    0x001f05001f01000301001f06001f00000342001f07001f01000342001f08000391000313001f09000391000314,
    0x001f0a001f08000300001f0b001f09000300001f0c001f08000301001f0d001f09000301001f0e001f08000342,
    0x001f0f001f09000342001f100003b5000313001f110003b5000314001f12001f10000300001f13001f11000300,
    0x001f14001f10000301001f15001f11000301001f18000395000313001f19000395000314001f1a001f18000300,
    0x001f1b001f19000300001f1c001f18000301001f1d001f19000301001f200003b7000313001f210003b7000314,
    0x001f22001f20000300001f23001f21000300001f24001f20000301001f25001f21000301001f26001f20000342,
    0x001f27001f21000342001f28000397000313001f29000397000314001f2a001f28000300001f2b001f29000300,
    0x001f2c001f28000301001f2d001f29000301001f2e001f28000342001f2f001f29000342001f300003b9000313,
    0x001f310003b9000314001f32001f30000300001f33001f31000300001f34001f30000301001f35001f31000301,
    0x001f36001f30000342001f37001f31000342001f38000399000313001f39000399000314001f3a001f38000300,
    0x001f3b001f39000300001f3c001f38000301001f3d001f39000301001f3e001f38000342001f3f001f39000342,
    0x001f400003bf000313001f410003bf000314001f42001f40000300001f43001f41000300001f44001f40000301,
    0x001f45001f41000301001f4800039f000313001f4900039f000314001f4a001f48000300001f4b001f49000300,
    0x001f4c001f48000301001f4d001f49000301001f500003c5000313001f510003c5000314001f52001f50000300,
    0x001f53001f51000300001f54001f50000301001f55001f51000301001f56001f50000342001f57001f51000342,
    0x001f590003a5000314001f5b001f59000300001f5d001f59000301001f5f001f59000342001f600003c9000313,
    0x001f610003c9000314001f62001f60000300001f63001f61000300001f64001f60000301001f65001f61000301,
    0x001f66001f60000342001f67001f61000342001f680003a9000313001f690003a9000314001f6a001f68000300,
    0x001f6b001f69000300001f6c001f68000301001f6d001f69000301001f6e001f68000342001f6f001f69000342,
    0x001f700003b1000300001f710003ac000000001f720003b5000300001f730003ad000000001f740003b7000300,
    0x001f750003ae000000001f760003b9000300001f770003af000000001f780003bf000300001f790003cc000000,
    0x001f7a0003c5000300001f7b0003cd000000001f7c0003c9000300001f7d0003ce000000001f80001f00000345,
    0x001f81001f01000345001f82001f02000345001f83001f03000345001f84001f04000345001f85001f05000345,
    0x001f86001f06000345001f87001f07000345001f88001f08000345001f89001f09000345001f8a001f0a000345,
    0x001f8b001f0b000345001f8c001f0c000345001f8d001f0d000345001f8e001f0e000345001f8f001f0f000345,
    0x001f90001f20000345001f91001f21000345001f92001f22000345001f93001f23000345001f94001f24000345,
    0x001f95001f25000345001f96001f26000345001f97001f27000345001f98001f28000345001f99001f29000345,
    0x001f9a001f2a000345001f9b001f2b000345001f9c001f2c000345001f9d001f2d000345001f9e001f2e000345,
    0x001f9f001f2f000345001fa0001f60000345001fa1001f61000345001fa2001f62000345001fa3001f63000345,
    0x001fa4001f64000345001fa5001f65000345001fa6001f66000345001fa7001f67000345001fa8001f68000345,
    0x001fa9001f69000345001faa001f6a000345001fab001f6b000345001fac001f6c000345001fad001f6d000345,
    0x001fae001f6e000345001faf001f6f000345001fb00003b1000306001fb10003b1000304001fb2001f70000345,
    0x001fb30003b1000345001fb40003ac000345001fb60003b1000342001fb7001fb6000345001fb8000391000306,
    0x001fb9000391000304001fba000391000300001fbb000386000000001fbc000391000345001fbe0003b9000000,
    0x001fc10000a8000342001fc2001f74000345001fc30003b7000345001fc40003ae000345001fc60003b7000342,
    0x001fc7001fc6000345001fc8000395000300001fc9000388000000001fca000397000300001fcb000389000000,
    0x001fcc000397000345001fcd001fbf000300001fce001fbf000301001fcf001fbf000342001fd00003b9000306,
    0x001fd10003b9000304001fd20003ca000300001fd3000390000000001fd60003b9000342001fd70003ca000342,
    0x001fd8000399000306001fd9000399000304001fda000399000300001fdb00038a000000001fdd001ffe000300,
    0x001fde001ffe000301001fdf001ffe000342001fe00003c5000306001fe10003c5000304001fe20003cb000300,
    0x001fe30003b0000000001fe40003c1000313001fe50003c1000314001fe60003c5000342001fe70003cb000342,
    0x001fe80003a5000306001fe90003a5000304001fea0003a5000300001feb00038e000000001fec0003a1000314,
    0x001fed0000a8000300001fee000385000000001fef000060000000001ff2001f7c000345001ff30003c9000345,
    0x001ff40003ce000345001ff60003c9000342001ff7001ff6000345001ff800039f000300001ff900038c000000,
    0x001ffa0003a9000300001ffb00038f000000001ffc0003a9000345001ffd0000b4000000002000002002000000,
    0x0020010020030000000021260003a900000000212a00004b00000000212b0000c500000000219a002190000338,
    0x00219b0021920003380021ae0021940003380021cd0021d00003380021ce0021d40003380021cf0021d2000338,
    0x00220400220300033800220900220800033800220c00220b000338002224002223000338002226002225000338,
    0x00224100223c00033800224400224300033800224700224500033800224900224800033800226000003d000338,
    0x00226200226100033800226d00224d00033800226e00003c00033800226f00003e000338002270002264000338,
    0x002271002265000338002274002272000338002275002273000338002278002276000338002279002277000338,
    0x00228000227a00033800228100227b000338002284002282000338002285002283000338002288002286000338,
    0x0022890022870003380022ac0022a20003380022ad0022a80003380022ae0022a90003380022af0022ab000338,
    0x0022e000227c0003380022e100227d0003380022e20022910003380022e30022920003380022ea0022b2000338,
    0x0022eb0022b30003380022ec0022b40003380022ed0022b500033800232900300800000000232a003009000000,
    0x002adc002add00033800304c00304b00309900304e00304d00309900305000304f003099003052003051003099,
    0x00305400305300309900305600305500309900305800305700309900305a00305900309900305c00305b003099,
    0x00305e00305d00309900306000305f003099003062003061003099003065003064003099003067003066003099,
    0x00306900306800309900307000306f00309900307100306f00309a00307300307200309900307400307200309a,
    0x00307600307500309900307700307500309a00307900307800309900307a00307800309a00307c00307b003099,
    0x00307d00307b00309a00309400304600309900309e00309d0030990030ac0030ab0030990030ae0030ad003099,
    0x0030b00030af0030990030b20030b10030990030b40030b30030990030b60030b50030990030b80030b7003099,
    0x0030ba0030b90030990030bc0030bb0030990030be0030bd0030990030c00030bf0030990030c20030c1003099,
    0x0030c50030c40030990030c70030c60030990030c90030c80030990030d00030cf0030990030d10030cf00309a,
    0x0030d30030d20030990030d40030d200309a0030d60030d50030990030d70030d500309a0030d90030d8003099,
    0x0030da0030d800309a0030dc0030db0030990030dd0030db00309a0030f40030a60030990030f70030ef003099,
    0x0030f80030f00030990030f90030f10030990030fa0030f20030990030fe0030fd00309900f900008c48000000,
    0x00f9010066f400000000f902008eca00000000f903008cc800000000f904006ed100000000f905004e32000000,
    0x00f9060053e500000000f907009f9c00000000f908009f9c00000000f90900595100000000f90a0091d1000000,
    0x00f90b00558700000000f90c00594800000000f90d0061f600000000f90e00766900000000f90f007f85000000,
    0x00f91000863f00000000f9110087ba00000000f9120088f800000000f91300908f00000000f914006a02000000,
    0x00f915006d1b00000000f9160070d900000000f9170073de00000000f91800843d00000000f91900916a000000,
    0x00f91a0099f100000000f91b004e8200000000f91c00537500000000f91d006b0400000000f91e00721b000000,
    0x00f91f00862d00000000f920009e1e00000000f921005d5000000000f922006feb00000000f9230085cd000000,
    0x00f92400896400000000f9250062c900000000f9260081d800000000f92700881f00000000f928005eca000000,
    0x00f92900671700000000f92a006d6a00000000f92b0072fc00000000f92c0090ce00000000f92d004f86000000,
    0x00f92e0051b700000000f92f0052de00000000f9300064c400000000f931006ad300000000f932007210000000,
    0x00f9330076e700000000f93400800100000000f93500860600000000f93600865c00000000f937008def000000,
    0x00f93800973200000000f939009b6f00000000f93a009dfa00000000f93b00788c00000000f93c00797f000000,
    0x00f93d007da000000000f93e0083c900000000f93f00930400000000f940009e7f00000000f941008ad6000000,
    0x00f9420058df00000000f943005f0400000000f944007c6000000000f94500807e00000000f946007262000000,
    0x00f9470078ca00000000f948008cc200000000f9490096f700000000f94a0058d800000000f94b005c62000000,
    0x00f94c006a1300000000f94d006dda00000000f94e006f0f00000000f94f007d2f00000000f950007e37000000,
    0x00f95100964b00000000f9520052d200000000f95300808b00000000f9540051dc00000000f9550051cc000000,
    0x00f956007a1c00000000f957007dbe00000000f9580083f100000000f95900967500000000f95a008b80000000,
    0x00f95b0062cf00000000f95c006a0200000000f95d008afe00000000f95e004e3900000000f95f005be7000000,
    0x00f96000601200000000f96100738700000000f96200757000000000f96300531700000000f9640078fb000000,
    0x00f965004fbf00000000f966005fa900000000f967004e0d00000000f968006ccc00000000f969006578000000,
    0x00f96a007d2200000000f96b0053c300000000f96c00585e00000000f96d00770100000000f96e008449000000,
    0x00f96f008aaa00000000f970006bba00000000f971008fb000000000f972006c8800000000f9730062fe000000,
    0x00f9740082e500000000f9750063a000000000f97600756500000000f977004eae00000000f978005169000000,
    0x00f9790051c900000000f97a00688100000000f97b007ce700000000f97c00826f00000000f97d008ad2000000,
    0x00f97e0091cf00000000f97f0052f500000000f98000544200000000f98100597300000000f982005eec000000,
    0x00f9830065c500000000f984006ffe00000000f98500792a00000000f9860095ad00000000f987009a6a000000,
    0x00f988009e9700000000f989009ece00000000f98a00529b00000000f98b0066c600000000f98c006b77000000,
    0x00f98d008f6200000000f98e005e7400000000f98f00619000000000f99000620000000000f99100649a000000,
    0x00f992006f2300000000f99300714900000000f99400748900000000f9950079ca00000000f996007df4000000,
    0x00f99700806f00000000f998008f2600000000f9990084ee00000000f99a00902300000000f99b00934a000000,
    0x00f99c00521700000000f99d0052a300000000f99e0054bd00000000f99f0070c800000000f9a00088c2000000,
    0x00f9a1008aaa00000000f9a2005ec900000000f9a3005ff500000000f9a400637b00000000f9a5006bae000000,
    0x00f9a6007c3e00000000f9a700737500000000f9a8004ee400000000f9a90056f900000000f9aa005be7000000,
    0x00f9ab005dba00000000f9ac00601c00000000f9ad0073b200000000f9ae00746900000000f9af007f9a000000,
    0x00f9b000804600000000f9b100923400000000f9b20096f600000000f9b300974800000000f9b4009818000000,
    0x00f9b5004f8b00000000f9b60079ae00000000f9b70091b400000000f9b80096b800000000f9b90060e1000000,
    0x00f9ba004e8600000000f9bb0050da00000000f9bc005bee00000000f9bd005c3f00000000f9be006599000000,
    0x00f9bf006a0200000000f9c00071ce00000000f9c100764200000000f9c20084fc00000000f9c300907c000000,
    0x00f9c4009f8d00000000f9c500668800000000f9c600962e00000000f9c700528900000000f9c800677b000000,
    0x00f9c90067f300000000f9ca006d4100000000f9cb006e9c00000000f9cc00740900000000f9cd007559000000,
    0x00f9ce00786b00000000f9cf007d1000000000f9d000985e00000000f9d100516d00000000f9d200622e000000,
    0x00f9d300967800000000f9d400502b00000000f9d5005d1900000000f9d6006dea00000000f9d7008f2a000000,
    0x00f9d8005f8b00000000f9d900614400000000f9da00681700000000f9db00738700000000f9dc009686000000,
    0x00f9dd00522900000000f9de00540f00000000f9df005c6500000000f9e000661300000000f9e100674e000000,
    0x00f9e20068a800000000f9e3006ce500000000f9e400740600000000f9e50075e200000000f9e6007f79000000,
    0x00f9e70088cf00000000f9e80088e100000000f9e90091cc00000000f9ea0096e200000000f9eb00533f000000,
    0x00f9ec006eba00000000f9ed00541d00000000f9ee0071d000000000f9ef00749800000000f9f00085fa000000,
    0x00f9f10096a300000000f9f2009c5700000000f9f3009e9f00000000f9f400679700000000f9f5006dcb000000,
    0x00f9f60081e800000000f9f7007acb00000000f9f8007b2000000000f9f9007c9200000000f9fa0072c0000000,
    0x00f9fb00709900000000f9fc008b5800000000f9fd004ec000000000f9fe00833600000000f9ff00523a000000,
    0x00fa0000520700000000fa01005ea600000000fa020062d300000000fa03007cd600000000fa04005b85000000,
    0x00fa05006d1e00000000fa060066b400000000fa07008f3b00000000fa0800884c00000000fa0900964d000000,
    0x00fa0a00898b00000000fa0b005ed300000000fa0c00514000000000fa0d0055c000000000fa1000585a000000,
    0x00fa1200667400000000fa150051de00000000fa1600732a00000000fa170076ca00000000fa1800793c000000,
    0x00fa1900795e00000000fa1a00796500000000fa1b00798f00000000fa1c00975600000000fa1d007cbe000000,
    0x00fa1e007fbd00000000fa2000861200000000fa22008af800000000fa2500903800000000fa260090fd000000,
    0x00fa2a0098ef00000000fa2b0098fc00000000fa2c00992800000000fa2d009db400000000fa2e0090de000000,
    0x00fa2f0096b700000000fa30004fae00000000fa310050e700000000fa3200514d00000000fa330052c9000000,
    0x00fa340052e400000000fa3500535100000000fa3600559d00000000fa3700560600000000fa38005668000000,
    0x00fa3900584000000000fa3a0058a800000000fa3b005c6400000000fa3c005c6e00000000fa3d006094000000,
    0x00fa3e00616800000000fa3f00618e00000000fa400061f200000000fa4100654f00000000fa420065e2000000,
    0x00fa4300669100000000fa4400688500000000fa45006d7700000000fa46006e1a00000000fa47006f22000000,
    0x00fa4800716e00000000fa4900722b00000000fa4a00742200000000fa4b00789100000000fa4c00793e000000,
    0x00fa4d00794900000000fa4e00794800000000fa4f00795000000000fa5000795600000000fa5100795d000000,
    0x00fa5200798d00000000fa5300798e00000000fa54007a4000000000fa55007a8100000000fa56007bc0000000,
    0x00fa57007df400000000fa58007e0900000000fa59007e4100000000fa5a007f7200000000fa5b008005000000,
    0x00fa5c0081ed00000000fa5d00827900000000fa5e00827900000000fa5f00845700000000fa60008910000000,
    0x00fa6100899600000000fa62008b0100000000fa63008b3900000000fa64008cd300000000fa65008d08000000,
    0x00fa66008fb600000000fa6700903800000000fa680096e300000000fa690097ff00000000fa6a00983b000000,
    0x00fa6b00607500000000fa6c0242ee00000000fa6d00821800000000fa70004e2600000000fa710051b5000000,
    0x00fa7200516800000000fa73004f8000000000fa7400514500000000fa7500518000000000fa760052c7000000,
    0x00fa770052fa00000000fa7800559d00000000fa7900555500000000fa7a00559900000000fa7b0055e2000000,
    0x00fa7c00585a00000000fa7d0058b300000000fa7e00594400000000fa7f00595400000000fa80005a62000000,
    0x00fa81005b2800000000fa82005ed200000000fa83005ed900000000fa84005f6900000000fa85005fad000000,
    0x00fa860060d800000000fa8700614e00000000fa8800610800000000fa8900618e00000000fa8a006160000000,
    0x00fa8b0061f200000000fa8c00623400000000fa8d0063c400000000fa8e00641c00000000fa8f006452000000,
    0x00fa9000655600000000fa9100667400000000fa9200671700000000fa9300671b00000000fa94006756000000,
    0x00fa95006b7900000000fa96006bba00000000fa97006d4100000000fa98006edb00000000fa99006ecb000000,
    0x00fa9a006f2200000000fa9b00701e00000000fa9c00716e00000000fa9d0077a700000000fa9e007235000000,
    0x00fa9f0072af00000000faa000732a00000000faa100747100000000faa200750600000000faa300753b000000,
    0x00faa400761d00000000faa500761f00000000faa60076ca00000000faa70076db00000000faa80076f4000000,
    0x00faa900774a00000000faaa00774000000000faab0078cc00000000faac007ab100000000faad007bc0000000,
    0x00faae007c7b00000000faaf007d5b00000000fab0007df400000000fab1007f3e00000000fab2008005000000,
    0x00fab300835200000000fab40083ef00000000fab500877900000000fab600894100000000fab7008986000000,
    0x00fab800899600000000fab9008abf00000000faba008af800000000fabb008acb00000000fabc008b01000000,
    0x00fabd008afe00000000fabe008aed00000000fabf008b3900000000fac0008b8a00000000fac1008d08000000,
    0x00fac2008f3800000000fac300907200000000fac400919900000000fac500927600000000fac600967c000000,
    0x00fac70096e300000000fac800975600000000fac90097db00000000faca0097ff00000000facb00980b000000,
    0x00facc00983b00000000facd009b1200000000face009f9c00000000facf02284a00000000fad0022844000000,
    0x00fad10233d500000000fad2003b9d00000000fad300401800000000fad400403900000000fad5025249000000,
    0x00fad6025cd000000000fad7027ed300000000fad8009f4300000000fad9009f8e00000000fb1d0005d90005b4,
    0x00fb1f0005f20005b700fb2a0005e90005c100fb2b0005e90005c200fb2c00fb490005c100fb2d00fb490005c2,
    0x00fb2e0005d00005b700fb2f0005d00005b800fb300005d00005bc00fb310005d10005bc00fb320005d20005bc,
    0x00fb330005d30005bc00fb340005d40005bc00fb350005d50005bc00fb360005d60005bc00fb380005d80005bc,
    0x00fb390005d90005bc00fb3a0005da0005bc00fb3b0005db0005bc00fb3c0005dc0005bc00fb3e0005de0005bc,
    0x00fb400005e00005bc00fb410005e10005bc00fb430005e30005bc00fb440005e40005bc00fb460005e60005bc,
    0x00fb470005e70005bc00fb480005e80005bc00fb490005e90005bc00fb4a0005ea0005bc00fb4b0005d50005b9,
    0x00fb4c0005d10005bf00fb4d0005db0005bf00fb4e0005e40005bf01109a0110990110ba01109c01109b0110ba,
    0x0110ab0110a50110ba01112e01113101112701112f01113201112701134b01134701133e01134c011347011357,
    0x0114bb0114b90114ba0114bc0114b90114b00114be0114b90114bd0115ba0115b80115af0115bb0115b90115af,
    0x01193801193501193001d15e01d15701d16501d15f01d15801d16501d16001d15f01d16e01d16101d15f01d16f,
    0x01d16201d15f01d17001d16301d15f01d17101d16401d15f01d17201d1bb01d1b901d16501d1bc01d1ba01d165,
    0x01d1bd01d1bb01d16e01d1be01d1bc01d16e01d1bf01d1bb01d16f01d1c001d1bc01d16f02f800004e3d000000,
    0x02f801004e3800000002f802004e4100000002f80302012200000002f804004f6000000002f805004fae000000,
    0x02f806004fbb00000002f80700500200000002f80800507a00000002f80900509900000002f80a0050e7000000,
    0x02f80b0050cf00000002f80c00349e00000002f80d02063a00000002f80e00514d00000002f80f005154000000,
    0x02f81000516400000002f81100517700000002f81202051c00000002f8130034b900000002f814005167000000,
    0x02f81500518d00000002f81602054b00000002f81700519700000002f8180051a400000002f819004ecc000000,
    0x02f81a0051ac00000002f81b0051b500000002f81c0291df00000002f81d0051f500000002f81e005203000000,
    0x02f81f0034df00000002f82000523b00000002f82100524600000002f82200527200000002f823005277000000,
    0x02f82400351500000002f8250052c700000002f8260052c900000002f8270052e400000002f8280052fa000000,
    0x02f82900530500000002f82a00530600000002f82b00531700000002f82c00534900000002f82d005351000000,
    0x02f82e00535a00000002f82f00537300000002f83000537d00000002f83100537f00000002f83200537f000000,
    0x02f83300537f00000002f834020a2c00000002f83500707000000002f8360053ca00000002f8370053df000000,
    0x02f838020b6300000002f8390053eb00000002f83a0053f100000002f83b00540600000002f83c00549e000000,
    0x02f83d00543800000002f83e00544800000002f83f00546800000002f8400054a200000002f8410054f6000000,
    0x02f84200551000000002f84300555300000002f84400556300000002f84500558400000002f846005584000000,
    0x02f84700559900000002f8480055ab00000002f8490055b300000002f84a0055c200000002f84b005716000000,
    0x02f84c00560600000002f84d00571700000002f84e00565100000002f84f00567400000002f850005207000000,
    0x02f8510058ee00000002f8520057ce00000002f8530057f400000002f85400580d00000002f85500578b000000,
    0x02f85600583200000002f85700583100000002f8580058ac00000002f8590214e400000002f85a0058f2000000,
    0x02f85b0058f700000002f85c00590600000002f85d00591a00000002f85e00592200000002f85f005962000000,
    0x02f8600216a800000002f8610216ea00000002f8620059ec00000002f863005a1b00000002f864005a27000000,
    0x02f8650059d800000002f866005a6600000002f8670036ee00000002f8680036fc00000002f869005b08000000,
    0x02f86a005b3e00000002f86b005b3e00000002f86c0219c800000002f86d005bc300000002f86e005bd8000000,
    0x02f86f005be700000002f870005bf300000002f871021b1800000002f872005bff00000002f873005c06000000,
    0x02f874005f5300000002f875005c2200000002f87600378100000002f877005c6000000002f878005c6e000000,
    0x02f879005cc000000002f87a005c8d00000002f87b021de400000002f87c005d4300000002f87d021de6000000,
    0x02f87e005d6e00000002f87f005d6b00000002f880005d7c00000002f881005de100000002f882005de2000000,
    0x02f88300382f00000002f884005dfd00000002f885005e2800000002f886005e3d00000002f887005e69000000,
    0x02f88800386200000002f88902218300000002f88a00387c00000002f88b005eb000000002f88c005eb3000000,
    0x02f88d005eb600000002f88e005eca00000002f88f02a39200000002f890005efe00000002f891022331000000,
    0x02f89202233100000002f89300820100000002f894005f2200000002f895005f2200000002f8960038c7000000,
    0x02f8970232b800000002f8980261da00000002f899005f6200000002f89a005f6b00000002f89b0038e3000000,
    0x02f89c005f9a00000002f89d005fcd00000002f89e005fd700000002f89f005ff900000002f8a0006081000000,
    0x02f8a100393a00000002f8a200391c00000002f8a300609400000002f8a40226d400000002f8a50060c7000000,
    0x02f8a600614800000002f8a700614c00000002f8a800614e00000002f8a900614c00000002f8aa00617a000000,
    0x02f8ab00618e00000002f8ac0061b200000002f8ad0061a400000002f8ae0061af00000002f8af0061de000000,
    0x02f8b00061f200000002f8b10061f600000002f8b200621000000002f8b300621b00000002f8b400625d000000,
    0x02f8b50062b100000002f8b60062d400000002f8b700635000000002f8b8022b0c00000002f8b900633d000000,
    0x02f8ba0062fc00000002f8bb00636800000002f8bc00638300000002f8bd0063e400000002f8be022bf1000000,
    0x02f8bf00642200000002f8c00063c500000002f8c10063a900000002f8c2003a2e00000002f8c3006469000000,
    0x02f8c400647e00000002f8c500649d00000002f8c600647700000002f8c7003a6c00000002f8c800654f000000,
    0x02f8c900656c00000002f8ca02300a00000002f8cb0065e300000002f8cc0066f800000002f8cd006649000000,
    0x02f8ce003b1900000002f8cf00669100000002f8d0003b0800000002f8d1003ae400000002f8d2005192000000,
    0x02f8d300519500000002f8d400670000000002f8d500669c00000002f8d60080ad00000002f8d70043d9000000,
    0x02f8d800671700000002f8d900671b00000002f8da00672100000002f8db00675e00000002f8dc006753000000,
    0x02f8dd0233c300000002f8de003b4900000002f8df0067fa00000002f8e000678500000002f8e1006852000000,
    0x02f8e200688500000002f8e302346d00000002f8e400688e00000002f8e500681f00000002f8e6006914000000,
    0x02f8e7003b9d00000002f8e800694200000002f8e90069a300000002f8ea0069ea00000002f8eb006aa8000000,
    0x02f8ec0236a300000002f8ed006adb00000002f8ee003c1800000002f8ef006b2100000002f8f00238a7000000,
    0x02f8f1006b5400000002f8f2003c4e00000002f8f3006b7200000002f8f4006b9f00000002f8f5006bba000000,
    0x02f8f6006bbb00000002f8f7023a8d00000002f8f8021d0b00000002f8f9023afa00000002f8fa006c4e000000,
    0x02f8fb023cbc00000002f8fc006cbf00000002f8fd006ccd00000002f8fe006c6700000002f8ff006d16000000,
    0x02f900006d3e00000002f901006d7700000002f902006d4100000002f903006d6900000002f904006d78000000,
    0x02f905006d8500000002f906023d1e00000002f907006d3400000002f908006e2f00000002f909006e6e000000,
    0x02f90a003d3300000002f90b006ecb00000002f90c006ec700000002f90d023ed100000002f90e006df9000000,
    0x02f90f006f6e00000002f910023f5e00000002f911023f8e00000002f912006fc600000002f913007039000000,
    0x02f91400701e00000002f91500701b00000002f916003d9600000002f91700704a00000002f91800707d000000,
    0x02f91900707700000002f91a0070ad00000002f91b02052500000002f91c00714500000002f91d024263000000,
    0x02f91e00719c00000002f91f0243ab00000002f92000722800000002f92100723500000002f922007250000000,
    0x02f92302460800000002f92400728000000002f92500729500000002f92602473500000002f927024814000000,
    0x02f92800737a00000002f92900738b00000002f92a003eac00000002f92b0073a500000002f92c003eb8000000,
    0x02f92d003eb800000002f92e00744700000002f92f00745c00000002f93000747100000002f931007485000000,
    0x02f9320074ca00000002f933003f1b00000002f93400752400000002f935024c3600000002f93600753e000000,
    0x02f937024c9200000002f93800757000000002f93902219f00000002f93a00761000000002f93b024fa1000000,
    0x02f93c024fb800000002f93d02504400000002f93e003ffc00000002f93f00400800000002f9400076f4000000,
    0x02f9410250f300000002f9420250f200000002f94302511900000002f94402513300000002f94500771e000000,
    0x02f94600771f00000002f94700771f00000002f94800774a00000002f94900403900000002f94a00778b000000,
    0x02f94b00404600000002f94c00409600000002f94d02541d00000002f94e00784e00000002f94f00788c000000,
    0x02f9500078cc00000002f9510040e300000002f95202562600000002f95300795600000002f95402569a000000,
    0x02f9550256c500000002f95600798f00000002f9570079eb00000002f95800412f00000002f959007a40000000,
    0x02f95a007a4a00000002f95b007a4f00000002f95c02597c00000002f95d025aa700000002f95e025aa7000000,
    0x02f95f007aee00000002f96000420200000002f961025bab00000002f962007bc600000002f963007bc9000000,
    0x02f96400422700000002f965025c8000000002f966007cd200000002f9670042a000000002f968007ce8000000,
    0x02f969007ce300000002f96a007d0000000002f96b025f8600000002f96c007d6300000002f96d004301000000,
    0x02f96e007dc700000002f96f007e0200000002f970007e4500000002f97100433400000002f972026228000000,
    0x02f97302624700000002f97400435900000002f9750262d900000002f976007f7a00000002f97702633e000000,
    0x02f978007f9500000002f979007ffa00000002f97a00800500000002f97b0264da00000002f97c026523000000,
    0x02f97d00806000000002f97e0265a800000002f97f00807000000002f98002335f00000002f9810043d5000000,
    0x02f9820080b200000002f98300810300000002f98400440b00000002f98500813e00000002f986005ab5000000,
    0x02f9870267a700000002f9880267b500000002f98902339300000002f98a02339c00000002f98b008201000000,
    0x02f98c00820400000002f98d008f9e00000002f98e00446b00000002f98f00829100000002f99000828b000000,
    0x02f99100829d00000002f9920052b300000002f9930082b100000002f9940082b300000002f9950082bd000000,
    0x02f9960082e600000002f997026b3c00000002f9980082e500000002f99900831d00000002f99a008363000000,
    0x02f99b0083ad00000002f99c00832300000002f99d0083bd00000002f99e0083e700000002f99f008457000000,
    0x02f9a000835300000002f9a10083ca00000002f9a20083cc00000002f9a30083dc00000002f9a4026c36000000,
    0x02f9a5026d6b00000002f9a6026cd500000002f9a700452b00000002f9a80084f100000002f9a90084f3000000,
    0x02f9aa00851600000002f9ab0273ca00000002f9ac00856400000002f9ad026f2c00000002f9ae00455d000000,
    0x02f9af00456100000002f9b0026fb100000002f9b10270d200000002f9b200456b00000002f9b3008650000000,
    0x02f9b400865c00000002f9b500866700000002f9b600866900000002f9b70086a900000002f9b8008688000000,
    0x02f9b900870e00000002f9ba0086e200000002f9bb00877900000002f9bc00872800000002f9bd00876b000000,
    0x02f9be00878600000002f9bf0045d700000002f9c00087e100000002f9c100880100000002f9c20045f9000000,
    0x02f9c300886000000002f9c400886300000002f9c502766700000002f9c60088d700000002f9c70088de000000,
    0x02f9c800463500000002f9c90088fa00000002f9ca0034bb00000002f9cb0278ae00000002f9cc027966000000,
    0x02f9cd0046be00000002f9ce0046c700000002f9cf008aa000000002f9d0008aed00000002f9d1008b8a000000,
    0x02f9d2008c5500000002f9d3027ca800000002f9d4008cab00000002f9d5008cc100000002f9d6008d1b000000,
    0x02f9d7008d7700000002f9d8027f2f00000002f9d902080400000002f9da008dcb00000002f9db008dbc000000,
    0x02f9dc008df000000002f9dd0208de00000002f9de008ed400000002f9df008f3800000002f9e00285d2000000,
    0x02f9e10285ed00000002f9e200909400000002f9e30090f100000002f9e400911100000002f9e502872e000000,
    0x02f9e600911b00000002f9e700923800000002f9e80092d700000002f9e90092d800000002f9ea00927c000000,
    0x02f9eb0093f900000002f9ec00941500000002f9ed028bfa00000002f9ee00958b00000002f9ef004995000000,
    0x02f9f00095b700000002f9f1028d7700000002f9f20049e600000002f9f30096c300000002f9f4005db2000000,
    0x02f9f500972300000002f9f602914500000002f9f702921a00000002f9f8004a6e00000002f9f9004a76000000,
    0x02f9fa0097e000000002f9fb02940a00000002f9fc004ab200000002f9fd02949600000002f9fe00980b000000,
    0x02f9ff00980b00000002fa0000982900000002fa010295b600000002fa020098e200000002fa03004b33000000,
    0x02fa0400992900000002fa050099a700000002fa060099c200000002fa070099fe00000002fa08004bce000000,
    0x02fa09029b3000000002fa0a009b1200000002fa0b009c4000000002fa0c009cfd00000002fa0d004cce000000,
    0x02fa0e004ced00000002fa0f009d6700000002fa1002a0ce00000002fa11004cf800000002fa1202a105000000,
    0x02fa1302a20e00000002fa1402a29100000002fa15009ebb00000002fa16004d5600000002fa17009ef9000000,
    0x02fa18009efe00000002fa19009f0500000002fa1a009f0f00000002fa1b009f1600000002fa1c009f3b000000,
    0x02fa1d02a600000000ffffff000000000000ffffff000000000000ffffff000000000000ffffff000000000000]⟩

/-- Two characters, and the one that they are put together to. -/
def compositionTable : PackedTable :=
  ⟨12, 6, 5, [
    0x00003c00033800226e00003d00033800226000003e00033800226f0000410003000000c00000410003010000c1,
    0x0000410003020000c20000410003030000c3000041000304000100000041000306000102000041000307000226,
    0x0000410003080000c4000041000309001ea200004100030a0000c500004100030c0001cd00004100030f000200,
    0x000041000311000202000041000323001ea0000041000325001e00000041000328000104000042000307001e02,
    0x000042000323001e04000042000331001e0600004300030100010600004300030200010800004300030700010a,
    0x00004300030c00010c0000430003270000c7000044000307001e0a00004400030c00010e000044000323001e0c,
    0x000044000327001e1000004400032d001e12000044000331001e0e0000450003000000c80000450003010000c9,
    0x0000450003020000ca000045000303001ebc000045000304000112000045000306000114000045000307000116,
    0x0000450003080000cb000045000309001eba00004500030c00011a00004500030f000204000045000311000206,
    0x000045000323001eb800004500032700022800004500032800011800004500032d001e18000045000330001e1a,
    0x000046000307001e1e0000470003010001f400004700030200011c000047000304001e2000004700030600011e,
    0x00004700030700012000004700030c0001e6000047000327000122000048000302000124000048000307001e22,
    0x000048000308001e2600004800030c00021e000048000323001e24000048000327001e2800004800032e001e2a,
    0x0000490003000000cc0000490003010000cd0000490003020000ce00004900030300012800004900030400012a,
    0x00004900030600012c0000490003070001300000490003080000cf000049000309001ec800004900030c0001cf,
    0x00004900030f00020800004900031100020a000049000323001eca00004900032800012e000049000330001e2c,
    0x00004a00030200013400004b000301001e3000004b00030c0001e800004b000323001e3200004b000327000136,
    0x00004b000331001e3400004c00030100013900004c00030c00013d00004c000323001e3600004c00032700013b,
    0x00004c00032d001e3c00004c000331001e3a00004d000301001e3e00004d000307001e4000004d000323001e42,
    0x00004e0003000001f800004e00030100014300004e0003030000d100004e000307001e4400004e00030c000147,
    0x00004e000323001e4600004e00032700014500004e00032d001e4a00004e000331001e4800004f0003000000d2,
    0x00004f0003010000d300004f0003020000d400004f0003030000d500004f00030400014c00004f00030600014e,
    0x00004f00030700022e00004f0003080000d600004f000309001ece00004f00030b00015000004f00030c0001d1,
    0x00004f00030f00020c00004f00031100020e00004f00031b0001a000004f000323001ecc00004f0003280001ea,
    0x000050000301001e54000050000307001e56000052000301000154000052000307001e5800005200030c000158,
    0x00005200030f000210000052000311000212000052000323001e5a000052000327000156000052000331001e5e,
    0x00005300030100015a00005300030200015c000053000307001e6000005300030c000160000053000323001e62,
    0x00005300032600021800005300032700015e000054000307001e6a00005400030c000164000054000323001e6c,
    0x00005400032600021a00005400032700016200005400032d001e70000054000331001e6e0000550003000000d9,
    0x0000550003010000da0000550003020000db00005500030300016800005500030400016a00005500030600016c,
    0x0000550003080000dc000055000309001ee600005500030a00016e00005500030b00017000005500030c0001d3,
    0x00005500030f00021400005500031100021600005500031b0001af000055000323001ee4000055000324001e72,
    0x00005500032800017200005500032d001e76000055000330001e74000056000303001e7c000056000323001e7e,
    0x000057000300001e80000057000301001e82000057000302000174000057000307001e86000057000308001e84,
    0x000057000323001e88000058000307001e8a000058000308001e8c000059000300001ef20000590003010000dd,
    0x000059000302000176000059000303001ef8000059000304000232000059000307001e8e000059000308000178,
    0x000059000309001ef6000059000323001ef400005a00030100017900005a000302001e9000005a00030700017b,
    0x00005a00030c00017d00005a000323001e9200005a000331001e940000610003000000e00000610003010000e1,
    0x0000610003020000e20000610003030000e3000061000304000101000061000306000103000061000307000227,
    0x0000610003080000e4000061000309001ea300006100030a0000e500006100030c0001ce00006100030f000201,
    0x000061000311000203000061000323001ea1000061000325001e01000061000328000105000062000307001e03,
    0x000062000323001e05000062000331001e0700006300030100010700006300030200010900006300030700010b,
    0x00006300030c00010d0000630003270000e7000064000307001e0b00006400030c00010f000064000323001e0d,
    0x000064000327001e1100006400032d001e13000064000331001e0f0000650003000000e80000650003010000e9,
    0x0000650003020000ea000065000303001ebd000065000304000113000065000306000115000065000307000117,
    0x0000650003080000eb000065000309001ebb00006500030c00011b00006500030f000205000065000311000207,
    0x000065000323001eb900006500032700022900006500032800011900006500032d001e19000065000330001e1b,
    0x000066000307001e1f0000670003010001f500006700030200011d000067000304001e2100006700030600011f,
    0x00006700030700012100006700030c0001e7000067000327000123000068000302000125000068000307001e23,
    0x000068000308001e2700006800030c00021f000068000323001e25000068000327001e2900006800032e001e2b,
    0x000068000331001e960000690003000000ec0000690003010000ed0000690003020000ee000069000303000129,
    0x00006900030400012b00006900030600012d0000690003080000ef000069000309001ec900006900030c0001d0,
    0x00006900030f00020900006900031100020b000069000323001ecb00006900032800012f000069000330001e2d,
    0x00006a00030200013500006a00030c0001f000006b000301001e3100006b00030c0001e900006b000323001e33,
    0x00006b00032700013700006b000331001e3500006c00030100013a00006c00030c00013e00006c000323001e37,
    0x00006c00032700013c00006c00032d001e3d00006c000331001e3b00006d000301001e3f00006d000307001e41,
    0x00006d000323001e4300006e0003000001f900006e00030100014400006e0003030000f100006e000307001e45,
    0x00006e00030c00014800006e000323001e4700006e00032700014600006e00032d001e4b00006e000331001e49,
    0x00006f0003000000f200006f0003010000f300006f0003020000f400006f0003030000f500006f00030400014d,
    0x00006f00030600014f00006f00030700022f00006f0003080000f600006f000309001ecf00006f00030b000151,
    0x00006f00030c0001d200006f00030f00020d00006f00031100020f00006f00031b0001a100006f000323001ecd,
    0x00006f0003280001eb000070000301001e55000070000307001e57000072000301000155000072000307001e59,
    0x00007200030c00015900007200030f000211000072000311000213000072000323001e5b000072000327000157,
    0x000072000331001e5f00007300030100015b00007300030200015d000073000307001e6100007300030c000161,
    0x000073000323001e6300007300032600021900007300032700015f000074000307001e6b000074000308001e97,
    0x00007400030c000165000074000323001e6d00007400032600021b00007400032700016300007400032d001e71,
    0x000074000331001e6f0000750003000000f90000750003010000fa0000750003020000fb000075000303000169,
    0x00007500030400016b00007500030600016d0000750003080000fc000075000309001ee700007500030a00016f,
    0x00007500030b00017100007500030c0001d400007500030f00021500007500031100021700007500031b0001b0,
    0x000075000323001ee5000075000324001e7300007500032800017300007500032d001e77000075000330001e75,
    0x000076000303001e7d000076000323001e7f000077000300001e81000077000301001e83000077000302000175,
    0x000077000307001e87000077000308001e8500007700030a001e98000077000323001e89000078000307001e8b,
    0x000078000308001e8d000079000300001ef30000790003010000fd000079000302000177000079000303001ef9,
    0x000079000304000233000079000307001e8f0000790003080000ff000079000309001ef700007900030a001e99,
    0x000079000323001ef500007a00030100017a00007a000302001e9100007a00030700017c00007a00030c00017e,
    0x00007a000323001e9300007a000331001e950000a8000300001fed0000a80003010003850000a8000342001fc1,
    0x0000c2000300001ea60000c2000301001ea40000c2000303001eaa0000c2000309001ea80000c40003040001de,
    0x0000c50003010001fa0000c60003010001fc0000c60003040001e20000c7000301001e080000ca000300001ec0,
    0x0000ca000301001ebe0000ca000303001ec40000ca000309001ec20000cf000301001e2e0000d4000300001ed2,
    0x0000d4000301001ed00000d4000303001ed60000d4000309001ed40000d5000301001e4c0000d500030400022c,
    0x0000d5000308001e4e0000d600030400022a0000d80003010001fe0000dc0003000001db0000dc0003010001d7,
    0x0000dc0003040001d50000dc00030c0001d90000e2000300001ea70000e2000301001ea50000e2000303001eab,
    0x0000e2000309001ea90000e40003040001df0000e50003010001fb0000e60003010001fd0000e60003040001e3,
    0x0000e7000301001e090000ea000300001ec10000ea000301001ebf0000ea000303001ec50000ea000309001ec3,
    0x0000ef000301001e2f0000f4000300001ed30000f4000301001ed10000f4000303001ed70000f4000309001ed5,
    0x0000f5000301001e4d0000f500030400022d0000f5000308001e4f0000f600030400022b0000f80003010001ff,
    0x0000fc0003000001dc0000fc0003010001d80000fc0003040001d60000fc00030c0001da000102000300001eb0,
    0x000102000301001eae000102000303001eb4000102000309001eb2000103000300001eb1000103000301001eaf,
    0x000103000303001eb5000103000309001eb3000112000300001e14000112000301001e16000113000300001e15,
    0x000113000301001e1700014c000300001e5000014c000301001e5200014d000300001e5100014d000301001e53,
    0x00015a000307001e6400015b000307001e65000160000307001e66000161000307001e67000168000301001e78,
    0x000169000301001e7900016a000308001e7a00016b000308001e7b00017f000307001e9b0001a0000300001edc,
    0x0001a0000301001eda0001a0000303001ee00001a0000309001ede0001a0000323001ee20001a1000300001edd,
    0x0001a1000301001edb0001a1000303001ee10001a1000309001edf0001a1000323001ee30001af000300001eea,
    0x0001af000301001ee80001af000303001eee0001af000309001eec0001af000323001ef00001b0000300001eeb,
    0x0001b0000301001ee90001b0000303001eef0001b0000309001eed0001b0000323001ef10001b700030c0001ee,
    0x0001ea0003040001ec0001eb0003040001ed0002260003040001e00002270003040001e1000228000306001e1c,
    0x000229000306001e1d00022e00030400023000022f00030400023100029200030c0001ef000391000300001fba,
    0x000391000301000386000391000304001fb9000391000306001fb8000391000313001f08000391000314001f09,
    0x000391000345001fbc000395000300001fc8000395000301000388000395000313001f18000395000314001f19,
    0x000397000300001fca000397000301000389000397000313001f28000397000314001f29000397000345001fcc,
    0x000399000300001fda00039900030100038a000399000304001fd9000399000306001fd80003990003080003aa,
    0x000399000313001f38000399000314001f3900039f000300001ff800039f00030100038c00039f000313001f48,
    0x00039f000314001f490003a1000314001fec0003a5000300001fea0003a500030100038e0003a5000304001fe9,
    0x0003a5000306001fe80003a50003080003ab0003a5000314001f590003a9000300001ffa0003a900030100038f,
    0x0003a9000313001f680003a9000314001f690003a9000345001ffc0003ac000345001fb40003ae000345001fc4,
    0x0003b1000300001f700003b10003010003ac0003b1000304001fb10003b1000306001fb00003b1000313001f00,
    0x0003b1000314001f010003b1000342001fb60003b1000345001fb30003b5000300001f720003b50003010003ad,
    0x0003b5000313001f100003b5000314001f110003b7000300001f740003b70003010003ae0003b7000313001f20,
    0x0003b7000314001f210003b7000342001fc60003b7000345001fc30003b9000300001f760003b90003010003af,
    0x0003b9000304001fd10003b9000306001fd00003b90003080003ca0003b9000313001f300003b9000314001f31,
    0x0003b9000342001fd60003bf000300001f780003bf0003010003cc0003bf000313001f400003bf000314001f41,
    0x0003c1000313001fe40003c1000314001fe50003c5000300001f7a0003c50003010003cd0003c5000304001fe1,
    0x0003c5000306001fe00003c50003080003cb0003c5000313001f500003c5000314001f510003c5000342001fe6,
    0x0003c9000300001f7c0003c90003010003ce0003c9000313001f600003c9000314001f610003c9000342001ff6,
    0x0003c9000345001ff30003ca000300001fd20003ca0003010003900003ca000342001fd70003cb000300001fe2,
    0x0003cb0003010003b00003cb000342001fe70003ce000345001ff40003d20003010003d30003d20003080003d4,
    0x0004060003080004070004100003060004d00004100003080004d2000413000301000403000415000300000400,
    0x0004150003060004d60004150003080004010004160003060004c10004160003080004dc0004170003080004de,
    0x00041800030000040d0004180003040004e20004180003060004190004180003080004e400041a00030100040c,
    0x00041e0003080004e60004230003040004ee00042300030600040e0004230003080004f000042300030b0004f2,
    0x0004270003080004f400042b0003080004f800042d0003080004ec0004300003060004d10004300003080004d3,
    0x0004330003010004530004350003000004500004350003060004d70004350003080004510004360003060004c2,
    0x0004360003080004dd0004370003080004df00043800030000045d0004380003040004e3000438000306000439,
    0x0004380003080004e500043a00030100045c00043e0003080004e70004430003040004ef00044300030600045e,
    0x0004430003080004f100044300030b0004f30004470003080004f500044b0003080004f900044d0003080004ed,
    0x00045600030800045700047400030f00047600047500030f0004770004d80003080004da0004d90003080004db,
    0x0004e80003080004ea0004e90003080004eb000627000653000622000627000654000623000627000655000625,
    0x00064800065400062400064a0006540006260006c10006540006c20006d20006540006d30006d50006540006c0,
    0x00092800093c00092900093000093c00093100093300093c0009340009c70009be0009cb0009c70009d70009cc,
    0x000b47000b3e000b4b000b47000b56000b48000b47000b57000b4c000b92000bd7000b94000bc6000bbe000bca,
    0x000bc6000bd7000bcc000bc7000bbe000bcb000c46000c56000c48000cbf000cd5000cc0000cc6000cc2000cca,
    0x000cc6000cd5000cc7000cc6000cd6000cc8000cca000cd5000ccb000d46000d3e000d4a000d46000d57000d4c,
    0x000d47000d3e000d4b000dd9000dca000dda000dd9000dcf000ddc000dd9000ddf000dde000ddc000dca000ddd,
    0x00102500102e001026001b05001b35001b06001b07001b35001b08001b09001b35001b0a001b0b001b35001b0c,
    0x001b0d001b35001b0e001b11001b35001b12001b3a001b35001b3b001b3c001b35001b3d001b3e001b35001b40,
    0x001b3f001b35001b41001b42001b35001b43001e36000304001e38001e37000304001e39001e5a000304001e5c,
    0x001e5b000304001e5d001e62000307001e68001e63000307001e69001ea0000302001eac001ea0000306001eb6,
    0x001ea1000302001ead001ea1000306001eb7001eb8000302001ec6001eb9000302001ec7001ecc000302001ed8,
    0x001ecd000302001ed9001f00000300001f02001f00000301001f04001f00000342001f06001f00000345001f80,
    0x001f01000300001f03001f01000301001f05001f01000342001f07001f01000345001f81001f02000345001f82,
    0x001f03000345001f83001f04000345001f84001f05000345001f85001f06000345001f86001f07000345001f87,
    0x001f08000300001f0a001f08000301001f0c001f08000342001f0e001f08000345001f88001f09000300001f0b,
    0x001f09000301001f0d001f09000342001f0f001f09000345001f89001f0a000345001f8a001f0b000345001f8b,
    0x001f0c000345001f8c001f0d000345001f8d001f0e000345001f8e001f0f000345001f8f001f10000300001f12,
    0x001f10000301001f14001f11000300001f13001f11000301001f15001f18000300001f1a001f18000301001f1c,
    0x001f19000300001f1b001f19000301001f1d001f20000300001f22001f20000301001f24001f20000342001f26,
    0x001f20000345001f90001f21000300001f23001f21000301001f25001f21000342001f27001f21000345001f91,
    0x001f22000345001f92001f23000345001f93001f24000345001f94001f25000345001f95001f26000345001f96,
    0x001f27000345001f97001f28000300001f2a001f28000301001f2c001f28000342001f2e001f28000345001f98,
    0x001f29000300001f2b001f29000301001f2d001f29000342001f2f001f29000345001f99001f2a000345001f9a,
    0x001f2b000345001f9b001f2c000345001f9c001f2d000345001f9d001f2e000345001f9e001f2f000345001f9f,
    0x001f30000300001f32001f30000301001f34001f30000342001f36001f31000300001f33001f31000301001f35,
    0x001f31000342001f37001f38000300001f3a001f38000301001f3c001f38000342001f3e001f39000300001f3b,
    0x001f39000301001f3d001f39000342001f3f001f40000300001f42001f40000301001f44001f41000300001f43,
    0x001f41000301001f45001f48000300001f4a001f48000301001f4c001f49000300001f4b001f49000301001f4d,
    0x001f50000300001f52001f50000301001f54001f50000342001f56001f51000300001f53001f51000301001f55,
    0x001f51000342001f57001f59000300001f5b001f59000301001f5d001f59000342001f5f001f60000300001f62,
    0x001f60000301001f64001f60000342001f66001f60000345001fa0001f61000300001f63001f61000301001f65,
    0x001f61000342001f67001f61000345001fa1001f62000345001fa2001f63000345001fa3001f64000345001fa4,
    0x001f65000345001fa5001f66000345001fa6001f67000345001fa7001f68000300001f6a001f68000301001f6c,
    0x001f68000342001f6e001f68000345001fa8001f69000300001f6b001f69000301001f6d001f69000342001f6f,
    0x001f69000345001fa9001f6a000345001faa001f6b000345001fab001f6c000345001fac001f6d000345001fad,
    0x001f6e000345001fae001f6f000345001faf001f70000345001fb2001f74000345001fc2001f7c000345001ff2,
    0x001fb6000345001fb7001fbf000300001fcd001fbf000301001fce001fbf000342001fcf001fc6000345001fc7,
    0x001ff6000345001ff7001ffe000300001fdd001ffe000301001fde001ffe000342001fdf00219000033800219a,
    0x00219200033800219b0021940003380021ae0021d00003380021cd0021d20003380021cf0021d40003380021ce,
    0x00220300033800220400220800033800220900220b00033800220c002223000338002224002225000338002226,
    0x00223c00033800224100224300033800224400224500033800224700224800033800224900224d00033800226d,
    0x002261000338002262002264000338002270002265000338002271002272000338002274002273000338002275,
    0x00227600033800227800227700033800227900227a00033800228000227b00033800228100227c0003380022e0,
    0x00227d0003380022e1002282000338002284002283000338002285002286000338002288002287000338002289,
    0x0022910003380022e20022920003380022e30022a20003380022ac0022a80003380022ad0022a90003380022ae,
    0x0022ab0003380022af0022b20003380022ea0022b30003380022eb0022b40003380022ec0022b50003380022ed,
    0x00304600309900309400304b00309900304c00304d00309900304e00304f003099003050003051003099003052,
    0x00305300309900305400305500309900305600305700309900305800305900309900305a00305b00309900305c,
    0x00305d00309900305e00305f003099003060003061003099003062003064003099003065003066003099003067,
    0x00306800309900306900306f00309900307000306f00309a00307100307200309900307300307200309a003074,
    0x00307500309900307600307500309a00307700307800309900307900307800309a00307a00307b00309900307c,
    0x00307b00309a00307d00309d00309900309e0030a60030990030f40030ab0030990030ac0030ad0030990030ae,
    0x0030af0030990030b00030b10030990030b20030b30030990030b40030b50030990030b60030b70030990030b8,
    0x0030b90030990030ba0030bb0030990030bc0030bd0030990030be0030bf0030990030c00030c10030990030c2,
    0x0030c40030990030c50030c60030990030c70030c80030990030c90030cf0030990030d00030cf00309a0030d1,
    0x0030d20030990030d30030d200309a0030d40030d50030990030d60030d500309a0030d70030d80030990030d9,
    0x0030d800309a0030da0030db0030990030dc0030db00309a0030dd0030ef0030990030f70030f00030990030f8,
    0x0030f10030990030f90030f20030990030fa0030fd0030990030fe0110990110ba01109a01109b0110ba01109c,
    0x0110a50110ba0110ab01113101112701112e01113201112701112f01134701133e01134b01134701135701134c,
    0x0114b90114b00114bc0114b90114ba0114bb0114b90114bd0114be0115b80115af0115ba0115b90115af0115bb,
    0x011935011930011938ffffffffffff000000ffffffffffff000000ffffffffffff000000ffffffffffff000000]⟩

end MultiSigner.Unicode
